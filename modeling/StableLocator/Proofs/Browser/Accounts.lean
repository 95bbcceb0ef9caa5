import StableLocator.Proofs.Browser.Course

/-!
# The accounts of a course

Over a whole course of commands each result is paid for by a turn from idle to waiting, and each report
that is handled came in since the page went elsewhere last.

* `Picker.armings` — the turns from idle to waiting in a course;
* `Picker.handled`, `arrivals` — the reports that are handled in a course, and those that come in;
* `Picker.balanced_run`, `Picker.pending_run`, `Picker.handled_sublist` — what a course makes of the
  results and of the queue;
* `Picker.run_accounts` — the accounts of a picker that is new to its page.
-/

namespace StableLocator
namespace Picker

variable {p : Picker}

/-! ## Courses -/

/-- How often somebody begins to wait in a course of commands. -/
def armings (p : Picker) : List Command → Nat
  | [] => 0
  | c :: rest => turns p (p.perform c) + (p.perform c).armings rest

def handledBy (p : Picker) : Command → List Pending
  | .process => p.pending
  | _ => []

/-- The reports that are handled in a course of commands, in order. -/
def handled (p : Picker) : List Command → List Pending
  | [] => []
  | c :: rest => p.handledBy c ++ (p.perform c).handled rest

def Command.arrival : Command → List Pending
  | .event (.report r) => [.pick r]
  | .event .close => [.close]
  | _ => []

/-- The reports that come in during a course of commands, in order. -/
def arrivals (commands : List Command) : List Pending := commands.flatMap Command.arrival

/-- A command leaves the events of the page reaching the picker. -/
theorem Open.perform (hp : p.Open) (c : Command) : (p.perform c).Open :=
  have hStep := balanced_perform hp c
  ⟨hStep.attached.trans hp.attached, hStep.bound.trans hp.bound⟩

theorem Open.run (hp : p.Open) (commands : List Command) : (p.run commands).Open := by
  induction commands generalizing p with
  | nil => exact hp
  | cons c rest ih => exact ih (hp.perform c)

/-- Over a whole course, each result is paid for by somebody who waited before or began to wait. -/
theorem balanced_run (hp : p.Open) (commands : List Command) :
    Balanced (p.armings commands) p (p.run commands) := by
  induction commands generalizing p with
  | nil => exact .of_results rfl rfl rfl rfl (Nat.le_refl _)
  | cons c rest ih => exact (balanced_perform hp c).trans (ih (hp.perform c))

/-- What waits after a course is what the commands make of the queue one after another. -/
theorem pending_run (hp : p.Open) (commands : List Command) :
    (p.run commands).pending = commands.foldl Command.queue p.pending := by
  induction commands generalizing p with
  | nil => rfl
  | cons c rest ih =>
    rw [List.foldl_cons, ← pending_perform hp c]
    exact ih (hp.perform c)

/-! ## Reports -/

/-- What a command handles and leaves waiting was waiting or comes in with it. -/
theorem handledBy_append_queue_sublist (p : Picker) (c : Command) :
    (p.handledBy c ++ c.queue p.pending).Sublist (p.pending ++ c.arrival) := by
  cases c with
  | event e =>
    cases e with
    | report r => exact .refl _
    | close => exact .refl _
    | navigated mainFrame =>
      cases mainFrame with
      | true => exact List.nil_sublist _
      | false => exact List.sublist_append_left _ _
    | pageClosed => exact List.sublist_append_left _ _
  | process => exact .refl _
  | _ => exact List.sublist_append_left _ _

/-- No report is handled twice or out of order, and none that did not come in. -/
theorem handled_append_pending_sublist (hp : p.Open) (commands : List Command) :
    (p.handled commands ++ (p.run commands).pending).Sublist (p.pending ++ arrivals commands) := by
  induction commands generalizing p with
  | nil => exact List.sublist_append_left _ _
  | cons c rest ih =>
    have hRest := ih (hp.perform c)
    rw [pending_perform hp c] at hRest
    have hStep := (p.handledBy_append_queue_sublist c).append_right (arrivals rest)
    rw [List.append_assoc] at hStep
    rw [handled, List.append_assoc, arrivals, List.flatMap_cons, ← List.append_assoc p.pending]
    exact (hRest.append_left _).trans hStep

/-- Reports are handled in the order in which they came, and none twice. -/
theorem handled_sublist (hp : p.Open) (commands : List Command) :
    (p.handled commands).Sublist (p.pending ++ arrivals commands) :=
  (List.sublist_append_left _ _).trans (handled_append_pending_sublist hp commands)

/-- Nothing that came in before the page goes elsewhere is handled afterwards. -/
theorem handled_navigated_sublist (hp : p.Open) (later : List Command) :
    ((p.perform (.event (.navigated true))).handled later).Sublist (arrivals later) := by
  have hLater := handled_sublist (hp.perform (.event (.navigated true))) later
  rwa [pending_perform hp, Command.queue, List.nil_append] at hLater

/-! ## New pickers -/

/-- A picker listens to its page and has done nothing so far. -/
structure Fresh (p : Picker) : Prop extends Open p where
  idle : p.session.armed = false
  results : p.results = []
  announced : p.announced = []
  pending : p.pending = []

/-- A picker that has done nothing is fresh when its page is attached. -/
theorem fresh_attach (hIdle : p.session.armed = false) (hResults : p.results = [])
    (hAnnounced : p.announced = []) (hPending : p.pending = []) : p.attach.Fresh := by
  have hBooks : p.attach.books = { p with attached := true, bound := true }.books :=
    books_inject _ _
  exact
    { attached := (attached_of_books hBooks :)
      bound := (bound_of_books hBooks :)
      idle := (congrArg Session.armed (session_of_books hBooks) :).trans hIdle
      results := (results_of_books hBooks :).trans hResults
      announced := (announced_of_books hBooks :).trans hAnnounced
      pending := (pending_of_books hBooks :).trans hPending }

/-- The accounts of a picker after any course of commands. What waits is what came in since it was
handled or the page went elsewhere, and it is handled to the last report; there is no more than one
result for each turn from idle to waiting, and each is handed out once and in order; what came in
before the page goes elsewhere is never handled after it, and a part of the page that goes elsewhere
changes nothing. -/
theorem run_accounts (hp : p.Fresh) (commands : List Command) :
    (p.run commands).pending = commands.foldl Command.queue [] ∧
      (p.run commands).process.1 = (p.run commands).pending.length ∧
      (p.run commands).process.2.pending = [] ∧
      (p.run commands).results.length ≤ p.armings commands ∧
      (p.run commands).announced = (p.run commands).results ∧
      (∀ later, (((p.run commands).perform (.event (.navigated true))).handled later).Sublist
        (arrivals later)) ∧
      (p.run commands).perform (.event (.navigated false)) = p.run commands := by
  have hOpen : (p.run commands).Open := hp.toOpen.run commands
  obtain ⟨_, _, new, hResults, hAnnounced, hPaid⟩ := balanced_run hp.toOpen commands
  rw [hp.results, List.nil_append] at hResults
  rw [hp.announced, List.nil_append] at hAnnounced
  rw [hp.idle, Bool.toNat_false, Nat.zero_add] at hPaid
  refine ⟨?_, (p.run commands).process_spec.1, (p.run commands).process_spec.2, ?_, ?_,
    fun later => handled_navigated_sublist hOpen later, fire_navigated_part _⟩
  · rw [pending_run hp.toOpen, hp.pending]
  · rw [hResults]
    exact Nat.le_of_add_right_le hPaid
  · rw [hAnnounced, hResults]

def noteStage : Stage :=
  { snapshot := .obj [("html", .str "<p data-testid=note data-locator-index=0>Note</p>")] }

/-- Somebody waits, and clicks twice; somebody waits again, and clicks before the page goes elsewhere
and after it has. -/
def hastyClicks : List Command :=
  let click : Command := .event (.report [("index", .int 0)])
  [.arm none, click, click, .process, .toggle none, click, .event (.navigated true), click]

theorem run_accounts_hastyClicks :
    let p := ({ stage := noteStage } : Picker).attach
    p.Fresh ∧ p.armings hastyClicks = 2 ∧ (p.run hastyClicks).results.length = 1 ∧
      (p.run hastyClicks).announced.length = 1 ∧ (p.run hastyClicks).process.1 = 1 ∧
      (p.run hastyClicks).process.2.pending = [] := by
  have hFresh : ({ stage := noteStage } : Picker).attach.Fresh := fresh_attach rfl rfl rfl rfl
  obtain ⟨hQueue, hCount, hEmpty, _, hAnnounced, _, _⟩ := run_accounts hFresh hastyClicks
  have hResults :
      ((({ stage := noteStage } : Picker).attach).run hastyClicks).results.length = 1 := by
    decide +kernel
  exact ⟨hFresh, by decide +kernel, hResults, (congrArg List.length hAnnounced).trans hResults,
    hCount.trans (congrArg List.length hQueue), hEmpty⟩

end Picker
end StableLocator
