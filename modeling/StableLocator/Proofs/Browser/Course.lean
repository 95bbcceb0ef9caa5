import StableLocator.Proofs.Browser.Steps

/-!
# Courses of commands

A picker is used in courses of commands: the user switches and verifies, the page reports and goes
elsewhere, and what waits is handled now and then.

* `Picker.Command`, `Picker.perform`, `Picker.run` — commands and courses of them;
* `Picker.process_cons` — handling what waits takes one report after another from the queue;
* `Picker.Balanced` — results are kept and handed out together, and each one is paid for by somebody
  who waited;
* `Picker.balanced_perform`, `Picker.pending_perform` — what one command does to the results and to
  the queue.
-/

namespace StableLocator
namespace Picker

variable {p q : Picker}

/-! ## Commands -/

/-- What a user and a page do with a picker that is attached. The page may begin to behave like another
stage at any time. -/
inductive Command
  | arm (dialect : Option Dialect)
  | disarm
  | toggle (dialect : Option Dialect)
  | event (e : PageEvent)
  | process
  | verify (text : String)
  | restage (stage : Stage)

def perform (p : Picker) : Command → Picker
  | .arm dialect => (p.arm dialect).2
  | .disarm => p.disarm.2
  | .toggle dialect => (p.toggle dialect).2
  | .event e => p.fire e
  | .process => p.process.2
  | .verify text => (p.verify text).2
  | .restage stage => { p with stage }

def run (p : Picker) (commands : List Command) : Picker := commands.foldl perform p

/-! ## Accounts -/

/-- A picker apart from its desk, from the page and from what it asked and told. -/
def accounts (p : Picker) : Picker := { p.books with desk := {}, stage := { snapshot := .null } }

/-- The accounts are told by the books, and the desk is not among them. -/
theorem accounts_of_books {desk : Desk} (h : q.books = { p with desk }.books) :
    q.accounts = p.accounts :=
  congrArg (fun b : Picker => { b with desk := {}, stage := { snapshot := .null } }) h

theorem accounts_arm (p : Picker) (dialect : Option Dialect) :
    (p.arm dialect).2.accounts = p.accounts := by
  unfold arm
  split
  · split
    · rfl
    · rename_i changed s _
      have hBooks := ((p.moveSession s).books_inject true).trans (p.books_moveSession s)
      dsimp only
      split
      · exact accounts_of_books hBooks
      · exact accounts_of_books hBooks
  · rfl

theorem accounts_disarm (p : Picker) : p.disarm.2.accounts = p.accounts := by
  have hBooks := p.books_moveSession p.session.disarm.2
  unfold disarm
  dsimp only
  -- Whether the page is told and whether the user is, the books are those of the session moved.
  split <;> split <;> exact accounts_of_books hBooks

theorem accounts_toggle (p : Picker) (dialect : Option Dialect) :
    (p.toggle dialect).2.accounts = p.accounts := by
  unfold toggle
  split
  · exact p.accounts_disarm
  · exact p.accounts_arm dialect

theorem accounts_verify (p : Picker) (text : String) :
    (p.verify text).2.accounts = p.accounts := by
  unfold verify
  split
  · cases hShot : p.snapshot with
    | mk outcome q =>
      have hBooks : q.books = p.books := by
        have := p.books_snapshot
        rwa [hShot] at this
      cases outcome with
      | error fault => exact accounts_of_books hBooks
      | ok page =>
        have hMove (desk : Desk) : (q.move desk).accounts = p.accounts :=
          (accounts_of_books (q.books_move desk)).trans (accounts_of_books hBooks)
        dsimp only
        generalize hMoved : q.move _ = moved
        have hAccounts : moved.accounts = p.accounts := hMoved ▸ hMove _
        -- Reading the stamps and outlining may fail, and touch no account either way.
        split
        · exact hAccounts
        · rename_i indices _
          have hOutline : (moved.outline indices).2.accounts = p.accounts := hAccounts
          split <;> rename_i h <;> rw [h] at hOutline <;> exact hOutline
  · rfl

/-! ## The queue -/

/-- With nothing waiting, processing changes nothing. -/
theorem process_nil (h : p.pending = []) : p.process = (0, p) := by
  rw [process, h, handleEach]

/-- Handling a report neither adds to the queue nor takes from it. -/
theorem pending_handleSafely (p : Picker) (event : Pending) :
    (p.handleSafely event).pending = p.pending := by
  cases event with
  | pick r =>
    rcases p.handleSafely_pick_cases r with ⟨hBooks, _⟩ | ⟨_, _, desk, _, new, _, hBooks⟩
    · exact pending_of_books hBooks
    · exact (pending_of_books hBooks :)
  | close => exact (pending_of_books p.books_handleSafely_close :)

/-- The first report is taken from the queue and handled, and then whatever waits. -/
theorem process_cons {event : Pending} {rest : List Pending} (h : p.pending = event :: rest) :
    p.process =
      (({ p with pending := rest }.handleSafely event).process.1 + 1,
        ({ p with pending := rest }.handleSafely event).process.2) := by
  rw [process, h, handleEach, process, pending_handleSafely]

/-- What waits is handled to the last report, and the answer is the number of reports that waited. -/
theorem process_spec (p : Picker) :
    p.process.1 = p.pending.length ∧ p.process.2.pending = [] := by
  induction hQueue : p.pending generalizing p with
  | nil =>
    rw [process_nil hQueue]
    exact ⟨rfl, hQueue⟩
  | cons event rest ih =>
    have hRest := pending_handleSafely { p with pending := rest } event
    obtain ⟨hCount, hEmpty⟩ := ih _ hRest
    rw [process_cons hQueue]
    exact ⟨congrArg (· + 1) hCount, hEmpty⟩

/-- What a command makes of the queue: reports join it, and it is empty once they are handled or the
page has gone elsewhere. -/
def Command.queue (waiting : List Pending) : Command → List Pending
  | .event (.report r) => waiting ++ [.pick r]
  | .event .close => waiting ++ [.close]
  | .event (.navigated true) => []
  | .process => []
  | _ => waiting

structure Open (p : Picker) : Prop where
  attached : p.attached = true
  bound : p.bound = true

theorem Open.of_accounts (hp : p.Open) (h : q.accounts = p.accounts) : q.Open where
  attached := (show q.accounts.attached = p.accounts.attached from congrArg _ h).trans hp.attached
  bound := (show q.accounts.bound = p.accounts.bound from congrArg _ h).trans hp.bound

theorem pending_of_accounts (h : q.accounts = p.accounts) : q.pending = p.pending :=
  show q.accounts.pending = p.accounts.pending from congrArg _ h

/-- A report joins the queue at its end. -/
theorem fire_report (hp : p.Open) (r : Report) :
    p.fire (.report r) = { p with pending := p.pending ++ [.pick r] } := by
  rw [fire, hp.bound, if_pos rfl]

theorem fire_close (hp : p.Open) :
    p.fire .close = { p with pending := p.pending ++ [.close] } := by
  rw [fire, hp.bound, if_pos rfl]

/-- When the page goes elsewhere, nobody waits any more and the queue is dropped. -/
theorem fire_navigated (hp : p.Open) :
    p.fire (.navigated true) = { p.moveSession p.session.navigate with pending := [] } := by
  rw [fire, hp.bound, hp.attached]
  rfl

/-- A part of the page that goes elsewhere changes nothing. -/
theorem fire_navigated_part (p : Picker) : p.fire (.navigated false) = p := by
  rw [fire, Bool.and_false]
  rfl

/-- A command makes of the queue what it should. -/
theorem pending_perform (hp : p.Open) (c : Command) :
    (p.perform c).pending = c.queue p.pending := by
  cases c with
  | arm dialect => exact pending_of_accounts (p.accounts_arm dialect)
  | disarm => exact pending_of_accounts p.accounts_disarm
  | toggle dialect => exact pending_of_accounts (p.accounts_toggle dialect)
  | event e =>
    cases e with
    | report r => rw [perform, fire_report hp, Command.queue]
    | close => rw [perform, fire_close hp, Command.queue]
    | navigated mainFrame =>
      cases mainFrame with
      | true => rw [perform, fire_navigated hp, Command.queue]
      | false => exact congrArg pending p.fire_navigated_part
    | pageClosed => rfl
  | process => exact p.process_spec.2
  | verify text => exact pending_of_accounts (p.accounts_verify text)
  | restage stage => rfl

/-! ## Results -/

/-- One more turn from idle to waiting, if this is one. -/
def turns (p q : Picker) : Nat := if !p.session.armed && q.session.armed then 1 else 0

/-- Results are kept and handed out together, and each of them is paid for: by somebody who waited
and does not any more, or by a turn from idle to waiting. -/
structure Balanced (turned : Nat) (p q : Picker) : Prop where
  attached : q.attached = p.attached
  bound : q.bound = p.bound
  paid : ∃ new, q.results = p.results ++ new ∧ q.announced = p.announced ++ new ∧
    new.length + q.session.armed.toNat ≤ p.session.armed.toNat + turned

/-- The balance of a course is the sum of the balances of its parts. -/
theorem Balanced.trans {m n : Nat} {p q s : Picker} (h₁ : Balanced m p q) (h₂ : Balanced n q s) :
    Balanced (m + n) p s := by
  obtain ⟨hAttached₁, hBound₁, new₁, hResults₁, hAnnounced₁, hPaid₁⟩ := h₁
  obtain ⟨hAttached₂, hBound₂, new₂, hResults₂, hAnnounced₂, hPaid₂⟩ := h₂
  refine ⟨hAttached₂.trans hAttached₁, hBound₂.trans hBound₁, new₁ ++ new₂, ?_, ?_, ?_⟩
  · rw [hResults₂, hResults₁, List.append_assoc]
  · rw [hAnnounced₂, hAnnounced₁, List.append_assoc]
  · rw [List.length_append]
    omega

/-- Where no results come, only who waits has to be looked at. -/
theorem Balanced.of_results {n : Nat} (hAttached : q.attached = p.attached)
    (hBound : q.bound = p.bound) (hResults : q.results = p.results)
    (hAnnounced : q.announced = p.announced)
    (hArmed : q.session.armed.toNat ≤ p.session.armed.toNat + n) : Balanced n p q :=
  ⟨hAttached, hBound, [], by rw [hResults, List.append_nil], by rw [hAnnounced, List.append_nil],
    by rwa [List.length_nil, Nat.zero_add]⟩

/-- A balance stays when more turns from idle to waiting are allowed. -/
theorem Balanced.mono {m n : Nat} (h : Balanced m p q) (hle : m ≤ n) : Balanced n p q := by
  obtain ⟨hAttached, hBound, new, hResults, hAnnounced, hPaid⟩ := h
  exact ⟨hAttached, hBound, new, hResults, hAnnounced, Nat.le_trans hPaid (Nat.add_le_add_left hle _)⟩

/-- A turn pays for itself. -/
theorem armed_le_turns (p q : Picker) :
    q.session.armed.toNat ≤ p.session.armed.toNat + turns p q := by
  unfold turns
  cases p.session.armed <;> cases q.session.armed <;> decide

/-- Where the accounts stay, only the turn itself is paid. -/
theorem Balanced.of_accounts (h : q.accounts = p.accounts) : Balanced (turns p q) p q := by
  have hField {α : Type} (f : Picker → α) : f q.accounts = f p.accounts := congrArg f h
  exact .of_results (hField Picker.attached) (hField Picker.bound) (hField Picker.results)
    (hField Picker.announced) (armed_le_turns p q)

/-- Where the books stay up to the desk, nothing is kept or handed out, so waiting alone has to be paid
for. -/
theorem Balanced.of_books {n : Nat} {desk : Desk} (h : q.books = { p with desk }.books)
    (hArmed : desk.session.armed.toNat ≤ p.session.armed.toNat + n) : Balanced n p q := by
  have hSession : q.session = desk.session := (session_of_books h :)
  refine .of_results (attached_of_books h :) (bound_of_books h :) (results_of_books h :)
    (announced_of_books h :) ?_
  rw [hSession]
  exact hArmed

/-- Nobody begins to wait because a report is handled. -/
theorem balanced_handleSafely (p : Picker) (event : Pending) :
    Balanced 0 p (p.handleSafely event) := by
  cases event with
  | pick r =>
    rcases p.handleSafely_pick_cases r with
      ⟨hBooks, _⟩ | ⟨hWaits, _, desk, hArmed, new, hNew, hBooks⟩
    · exact @Balanced.of_books _ _ 0 p.desk hBooks (Nat.le_refl _)
    · -- The click that somebody waited for leaves nobody waiting and at most one result.
      have hSession : (p.handleSafely (.pick r)).session = desk.session :=
        (session_of_books hBooks :)
      refine ⟨(attached_of_books hBooks :), (bound_of_books hBooks :), new,
        (results_of_books hBooks :), (announced_of_books hBooks :), ?_⟩
      rw [Bool.and_eq_true] at hWaits
      rw [hSession, hArmed, hWaits.2]
      simpa using hNew
  | close =>
    have hArmed : p.session.hide.armed = p.session.armed :=
      Session.armed_of_core p.session.core_hide
    exact .of_books p.books_handleSafely_close (Nat.le_of_eq (congrArg Bool.toNat hArmed))

/-- Processing is paid for by those who waited before: it never makes anybody wait. -/
theorem balanced_process (p : Picker) : Balanced 0 p p.process.2 := by
  induction hQueue : p.pending generalizing p with
  | nil =>
    rw [process_nil hQueue]
    exact .of_results rfl rfl rfl rfl (Nat.le_refl _)
  | cons event rest ih =>
    have hTaken : Balanced 0 p { p with pending := rest } :=
      .of_results rfl rfl rfl rfl (Nat.le_refl _)
    have hHandled := balanced_handleSafely { p with pending := rest } event
    have hRest := ih _ (pending_handleSafely { p with pending := rest } event)
    rw [process_cons hQueue]
    exact (hTaken.trans hHandled).trans hRest

/-- A command keeps the balance, with at most the one turn that can be seen. -/
theorem balanced_perform (hp : p.Open) (c : Command) :
    Balanced (turns p (p.perform c)) p (p.perform c) := by
  cases c with
  | arm dialect => exact .of_accounts (p.accounts_arm dialect)
  | disarm => exact .of_accounts p.accounts_disarm
  | toggle dialect => exact .of_accounts (p.accounts_toggle dialect)
  | event e =>
    -- An event changes the queue, the session or the stage, never the results.
    cases e with
    | report r =>
      have hFire : p.perform (.event (.report r)) = _ := fire_report hp r
      rw [hFire]
      exact .of_results rfl rfl rfl rfl (armed_le_turns _ _)
    | close =>
      have hFire : p.perform (.event .close) = _ := fire_close hp
      rw [hFire]
      exact .of_results rfl rfl rfl rfl (armed_le_turns _ _)
    | navigated mainFrame =>
      cases mainFrame with
      | true =>
        have hFire : p.perform (.event (.navigated true)) = _ := fire_navigated hp
        have hBooks := p.books_moveSession p.session.navigate
        rw [hFire]
        exact .of_results (attached_of_books hBooks :) (bound_of_books hBooks :)
          (results_of_books hBooks :) (announced_of_books hBooks :) (armed_le_turns _ _)
      | false =>
        have hFire : p.perform (.event (.navigated false)) = p := p.fire_navigated_part
        rw [hFire]
        exact .of_results rfl rfl rfl rfl (armed_le_turns _ _)
    | pageClosed => exact .of_results rfl rfl rfl rfl (armed_le_turns _ _)
  | process => exact p.balanced_process.mono (Nat.zero_le _)
  | verify text => exact .of_accounts (p.accounts_verify text)
  | restage stage => exact .of_accounts rfl

end Picker
end StableLocator
