import StableLocator.Proofs.Browser.Accounts

/-!
# Where results come from

A click is answered by whoever waits when it is handled, which need not be who waited when it came in:
a report that came in while nobody waited, or for somebody who has ceased to wait since, is answered if
somebody waits again before it is handled. Nothing of the kind happens as long as no report waits when
somebody begins to.

* `Picker.resultOf?`, `Picker.results_handleSafely` — the result of one report, whenever it came in;
* `Picker.process_eq`, `Picker.harvest` — the results of a whole queue, each with its report;
* `Picker.Arrival`, `Picker.watch` — reports that are live: somebody has waited since before they came;
* `Picker.Prompt` — nobody begins to wait before what came in is handled;
* `Picker.run_origins` — the reports that results come from;
* `Picker.harvest_staleClicks` — two reports that are not live, and are answered.
-/

namespace StableLocator
namespace Picker

variable {p q : Picker}

/-! ## One report -/

def resultOf? (p : Picker) : Pending → Option Result
  | .close => none
  | .pick r =>
    if p.attached && p.session.armed then do
      let index ← r.index?.toOption.join
      let page ← p.snapshot.1.toOption
      let spot ← page.atIndex? index
      let (number, desk) := p.desk.take page
      let finding ← (desk.answer ⟨number, spot.place⟩ []).toOption
      some ⟨number, finding, p.session.dialect⟩
    else none

/-- A pick that is waited for adds its locator to the results, if there is one. -/
theorem results_pickAt (p : Picker) (page : Page) (place : Place) (h : p.session.armed = true) :
    (p.pickAt page place).results = p.results ++
      ((((p.desk.take page).2.answer ⟨(p.desk.take page).1, place⟩ []).toOption).map fun f =>
        (⟨(p.desk.take page).1, f, p.session.dialect⟩ : Result)).toList := by
  have hArmed : (p.desk.take page).2.session.armed = true := h
  have hMove (desk : Desk) : (p.move desk).results = p.results := (results_of_books (p.books_move desk) :)
  unfold pickAt Desk.pick
  simp only [if_pos hArmed]
  cases ((p.desk.take page).2.answer ⟨(p.desk.take page).1, place⟩ []).toOption with
  | none => simp [hMove]
  | some f => simp [announce, hMove]

/-- A click adds to the results just what it results in. -/
theorem results_handlePick (p : Picker) (r : Report) :
    (p.handlePick r).2.results = p.results ++ (p.resultOf? (.pick r)).toList := by
  cases hWaits : p.attached && p.session.armed with
  | false =>
    rw [handlePick_of_idle hWaits, resultOf?, hWaits]
    exact (List.append_nil _).symm
  | true =>
    let asked := p.ask (.evaluate .snapshot snapshotArgument)
    have hSnapshot : p.snapshot = (p.snapshot.1, asked) := rfl
    have hDismiss (q : Picker) (message : String) : (q.dismiss message).results = q.results :=
      (results_of_books (q.books_moveSession q.session.disarm.2) :)
    -- Both sides look at the index, the snapshot and the element in this order.
    unfold handlePick resultOf?
    dsimp only
    rw [hWaits, if_pos rfl, if_pos rfl, hSnapshot]
    cases r.index? with
    | error e => exact (List.append_nil _).symm
    | ok index? =>
      cases index? with
      | none => exact (hDismiss p _).trans (List.append_nil _).symm
      | some index =>
        cases p.snapshot.1 with
        | error fault => exact (List.append_nil _).symm
        | ok page =>
          simp only [Except.toOption, Option.join_some, Option.bind_eq_bind, Option.bind_some]
          cases page.atIndex? index with
          | none => exact (hDismiss asked _).trans (List.append_nil _).symm
          | some spot =>
            have hPick := asked.results_pickAt page spot.place (Bool.and_eq_true _ _ ▸ hWaits).2
            rw [Option.map_eq_bind] at hPick
            exact hPick

/-- When the report came in makes no difference to its result. -/
theorem results_handleSafely (p : Picker) (event : Pending) :
    (p.handleSafely event).results = p.results ++ (p.resultOf? event).toList := by
  have hHandle : (p.handleSafely event).results = (p.handle event).2.results := by
    unfold handleSafely
    generalize p.handle event = handled
    obtain ⟨outcome, q⟩ := handled
    cases outcome <;> rfl
  rw [hHandle]
  cases event with
  | pick r => exact p.results_handlePick r
  | close => exact (results_of_books (p.books_moveSession p.session.hide) :).trans (List.append_nil _).symm

/-! ## The queue -/

theorem carry_pending (p : Picker) (waiting : List Pending) (e : PanelEvent) :
    ({ p with pending := waiting } : Picker).carry e = { p.carry e with pending := waiting } := by
  unfold carry
  split
  · cases e <;> rfl
  · rfl

/-- A move of the desk does not look at the queue. -/
theorem move_pending (p : Picker) (waiting : List Pending) (desk : Desk) :
    ({ p with pending := waiting } : Picker).move desk =
      { p.move desk with pending := waiting } := by
  have hCarry (news : List PanelEvent) (q : Picker) :
      news.foldl carry { q with pending := waiting } =
        { news.foldl carry q with pending := waiting } := by
    induction news generalizing q with
    | nil => rfl
    | cons e news ih => rw [List.foldl_cons, carry_pending, ih, List.foldl_cons]
  exact hCarry (desk.session.history.drop p.session.history.length) { p with desk }

theorem pickAt_pending (p : Picker) (waiting : List Pending) (page : Page) (place : Place) :
    ({ p with pending := waiting } : Picker).pickAt page place =
      { p.pickAt page place with pending := waiting } := by
  have hMove := p.move_pending waiting ((p.desk.take page).2.pick ⟨(p.desk.take page).1, place⟩).2
  unfold pickAt
  dsimp only at hMove ⊢
  rw [hMove]
  split
  · rfl
  · rfl

theorem dismiss_pending (p : Picker) (waiting : List Pending) (message : String) :
    ({ p with pending := waiting } : Picker).dismiss message =
      { p.dismiss message with pending := waiting } :=
  congrArg (tell · message) (p.move_pending waiting { p.desk with session := p.session.disarm.2 })

theorem handlePick_pending (p : Picker) (waiting : List Pending) (r : Report) :
    ({ p with pending := waiting } : Picker).handlePick r =
      ((p.handlePick r).1, { (p.handlePick r).2 with pending := waiting }) := by
  cases hWaits : p.attached && p.session.armed with
  | false =>
    rw [handlePick_of_idle hWaits]
    exact @handlePick_of_idle { p with pending := waiting } r hWaits
  | true =>
    have hSession : ({ p with pending := waiting } : Picker).session = p.session := rfl
    have hSnapshot : ({ p with pending := waiting } : Picker).snapshot =
        (p.snapshot.1, { p.snapshot.2 with pending := waiting }) := rfl
    unfold handlePick
    rw [hSession, hSnapshot, hWaits, if_pos rfl, if_pos rfl]
    cases r.index? with
    | error e => rfl
    | ok index? =>
      cases index? with
      | none => exact congrArg (Prod.mk _) (p.dismiss_pending waiting _)
      | some index =>
        generalize p.snapshot = shot
        obtain ⟨outcome, q⟩ := shot
        cases outcome with
        | error fault => rfl
        | ok page =>
          dsimp only
          cases page.atIndex? index with
          | none => exact congrArg (Prod.mk _) (q.dismiss_pending waiting _)
          | some spot => exact congrArg (Prod.mk _) (q.pickAt_pending waiting page spot.place)

theorem handle_pending (p : Picker) (waiting : List Pending) (event : Pending) :
    ({ p with pending := waiting } : Picker).handle event =
      ((p.handle event).1, { (p.handle event).2 with pending := waiting }) := by
  cases event with
  | pick r => exact p.handlePick_pending waiting r
  | close => exact congrArg (Prod.mk _) (p.move_pending waiting { p.desk with session := p.session.hide })

/-- Handling a report does not look at the queue. -/
theorem handleSafely_pending (p : Picker) (waiting : List Pending) (event : Pending) :
    ({ p with pending := waiting } : Picker).handleSafely event =
      { p.handleSafely event with pending := waiting } := by
  unfold handleSafely
  rw [handle_pending]
  generalize p.handle event = handled
  obtain ⟨outcome, q⟩ := handled
  cases outcome with
  | ok _ => rfl
  | error fault => rfl

/-- Nor does the handling of several, so that the queue may be emptied before or after. -/
theorem foldl_handleSafely_pending (p : Picker) (waiting events : List Pending) :
    events.foldl handleSafely { p with pending := waiting } =
      { events.foldl handleSafely p with pending := waiting } := by
  induction events generalizing p with
  | nil => rfl
  | cons event events ih => rw [List.foldl_cons, handleSafely_pending, ih, List.foldl_cons]

/-- What waits is handled in order, by pickers that know of no queue. -/
theorem process_eq (p : Picker) :
    p.process.2 = { p.pending.foldl handleSafely p with pending := [] } := by
  induction hQueue : p.pending generalizing p with
  | nil =>
    rw [process_nil hQueue]
    exact congrArg (fun waiting => ({ p with pending := waiting } : Picker)) hQueue
  | cons event rest ih =>
    -- The first report is handled by a picker with the rest for its queue, which makes no difference.
    rw [process_cons hQueue]
    have hTaken := p.handleSafely_pending rest event
    have hRest := ih _ (pending_handleSafely { p with pending := rest } event)
    rw [hTaken, foldl_handleSafely_pending] at hRest
    rw [hTaken, List.foldl_cons]
    exact hRest

/-! ## Arrivals -/

structure Arrival where
  event : Pending
  /-- Somebody waited for a click when it came in, and has waited ever since. -/
  live : Bool

/-- The results of handling reports in order, each with the report that it comes from. -/
def harvest : Picker → List Arrival → List (Result × Arrival)
  | _, [] => []
  | p, a :: rest =>
    (p.resultOf? a.event).toList.map (·, a) ++ (p.handleSafely a.event).harvest rest

variable {waiting : List Arrival}

/-- The harvest is what handling the reports adds to the results. -/
theorem results_harvest (p : Picker) (waiting : List Arrival) :
    ((waiting.map Arrival.event).foldl handleSafely p).results =
      p.results ++ (p.harvest waiting).map Prod.fst := by
  induction waiting generalizing p with
  | nil => exact (List.append_nil _).symm
  | cons a rest ih =>
    have hFirst : ((p.resultOf? a.event).toList.map (·, a)).map Prod.fst =
        (p.resultOf? a.event).toList := by
      cases p.resultOf? a.event <;> rfl
    rw [List.map_cons, List.foldl_cons, ih, results_handleSafely, harvest, List.map_append, hFirst,
      List.append_assoc]

/-- The harvest of two parts, the second of them handled after the first. -/
theorem harvest_append (p : Picker) (old new : List Arrival) :
    p.harvest (old ++ new) =
      p.harvest old ++ ((old.map Arrival.event).foldl handleSafely p).harvest new := by
  induction old generalizing p with
  | nil => rfl
  | cons a old ih =>
    rw [List.cons_append, harvest, ih, harvest, List.append_assoc]
    rfl

/-- The harvest comes from reports that waited. -/
theorem mem_of_mem_harvest {g : Result × Arrival} (h : g ∈ p.harvest waiting) : g.2 ∈ waiting := by
  induction waiting generalizing p with
  | nil => cases h
  | cons a rest ih =>
    rcases List.mem_append.mp h with hFirst | hLater
    · obtain ⟨_, _, rfl⟩ := List.mem_map.mp hFirst
      exact List.mem_cons_self
    · exact List.mem_cons_of_mem _ (ih hLater)

/-- All results come from live reports exactly if the reports before those have none. -/
theorem live_harvest_iff {old new : List Arrival} (hOld : ∀ a ∈ old, a.live = false)
    (hNew : ∀ a ∈ new, a.live = true) :
    (∀ g ∈ p.harvest (old ++ new), g.2.live = true) ↔ p.harvest old = [] := by
  rw [harvest_append]
  constructor
  · intro hLive
    rw [List.eq_nil_iff_forall_not_mem]
    intro g hg
    have hDead := hOld g.2 (mem_of_mem_harvest hg)
    rw [hLive g (List.mem_append_left _ hg)] at hDead
    cases hDead
  · intro hNone g hg
    rw [hNone, List.nil_append] at hg
    exact hNew g.2 (mem_of_mem_harvest hg)

/-- The results of a queue are those of its reports, and one at most if somebody waits. -/
theorem process_harvest (h : waiting.map Arrival.event = p.pending) :
    p.process.2.results = p.results ++ (p.harvest waiting).map Prod.fst ∧
      (p.harvest waiting).length ≤ p.session.armed.toNat := by
  have hResults : p.process.2.results = p.results ++ (p.harvest waiting).map Prod.fst := by
    rw [process_eq, ← h]
    exact p.results_harvest waiting
  obtain ⟨_, _, new, hNew, _, hPaid⟩ := p.balanced_process
  rw [hResults, List.append_cancel_left_eq] at hNew
  have hLength := congrArg List.length hNew
  rw [List.length_map] at hLength
  refine ⟨hResults, ?_⟩
  omega

/-! ## Courses of commands -/

def Command.clears : Command → Bool
  | .process | .event (.navigated true) => true
  | _ => false

/-- The queue after a command, by whether the command clears it and by what it brings. -/
theorem Command.queue_eq (c : Command) (waiting : List Pending) :
    c.queue waiting = if c.clears then [] else waiting ++ c.arrival := by
  cases c with
  | event e =>
    cases e with
    | navigated mainFrame =>
      cases mainFrame with
      | true => rfl
      | false => exact (List.append_nil _).symm
    | pageClosed => exact (List.append_nil _).symm
    | report r => rfl
    | close => rfl
  | process => rfl
  | _ => exact (List.append_nil _).symm

/-- The reports that wait after a command. Those that waited before are live as long as somebody waits
for a click, and a report that comes in does not change who waits. -/
def watchStep (p : Picker) (waiting : List Arrival) (c : Command) : List Arrival :=
  let armed := (p.perform c).session.armed
  if c.clears then []
  else
    waiting.map (fun a => { a with live := a.live && armed }) ++
      c.arrival.map fun event => ⟨event, armed⟩

def watch (p : Picker) (waiting : List Arrival) : List Command → List Arrival
  | [] => waiting
  | c :: rest => (p.perform c).watch (p.watchStep waiting c) rest

/-- Whenever somebody begins to wait in a course of commands, no report waits. -/
def Prompt (p : Picker) : List Command → Prop
  | [] => True
  | c :: rest => (turns p (p.perform c) = 1 → p.pending = []) ∧ (p.perform c).Prompt rest

/-- Reports that are not live come before those that are. -/
def Aged (waiting : List Arrival) : Prop :=
  ∃ old new, waiting = old ++ new ∧ (∀ a ∈ old, a.live = false) ∧ ∀ a ∈ new, a.live = true

/-- The reports that are watched are those that wait. -/
theorem events_watchStep (hp : p.Open) (h : waiting.map Arrival.event = p.pending) (c : Command) :
    (p.watchStep waiting c).map Arrival.event = (p.perform c).pending := by
  have hKept (armed : Bool) :
      (waiting.map fun a => { a with live := a.live && armed }).map Arrival.event = p.pending := by
    rw [List.map_map, ← h]
    rfl
  have hCame (armed : Bool) : (c.arrival.map fun event => (⟨event, armed⟩ : Arrival)).map
      Arrival.event = c.arrival := by
    rw [List.map_map]
    exact List.map_id _
  rw [pending_perform hp, Command.queue_eq, watchStep]
  split
  · rfl
  · rw [List.map_append, hKept, hCame]

/-- Reports that come later stay behind those that came before. -/
theorem aged_watchStep (h : Aged waiting) (p : Picker) (c : Command) :
    Aged (p.watchStep waiting c) := by
  obtain ⟨old, new, rfl, hOld, hNew⟩ := h
  unfold watchStep
  dsimp only
  generalize (p.perform c).session.armed = armed
  split
  · exact ⟨[], [], rfl, by simp, by simp⟩
  · cases armed with
    | false =>
      refine ⟨_, [], (List.append_nil _).symm, fun a ha => ?_, by simp⟩
      rcases List.mem_append.mp ha with hKept | hCame
      · obtain ⟨b, _, rfl⟩ := List.mem_map.mp hKept
        exact Bool.and_false b.live
      · obtain ⟨event, _, rfl⟩ := List.mem_map.mp hCame
        rfl
    | true =>
      have hSame : ((old ++ new).map fun a => { a with live := a.live && true }) = old ++ new := by
        simp
      refine ⟨old, new ++ c.arrival.map fun event => ⟨event, true⟩, ?_, hOld, fun a ha => ?_⟩
      · rw [hSame, List.append_assoc]
      · rcases List.mem_append.mp ha with hKept | hCame
        · exact hNew a hKept
        · obtain ⟨event, _, rfl⟩ := List.mem_map.mp hCame
          rfl

/-- Whoever waits then, reports that wait are live, if none waited when somebody began to. -/
def AllLive (p : Picker) (waiting : List Arrival) : Prop :=
  p.session.armed = true → ∀ a ∈ waiting, a.live = true

/-- Live reports stay live through a command, unless somebody begins to wait while reports wait. -/
theorem allLive_watchStep {c : Command} (hEvents : waiting.map Arrival.event = p.pending)
    (hLive : p.AllLive waiting) (hPrompt : turns p (p.perform c) = 1 → p.pending = []) :
    (p.perform c).AllLive (p.watchStep waiting c) := by
  intro hArmed a ha
  rw [watchStep, hArmed] at ha
  split at ha
  · cases ha
  · rcases List.mem_append.mp ha with hKept | hCame
    · obtain ⟨b, hb, rfl⟩ := List.mem_map.mp hKept
      rw [Bool.and_true]
      cases hBefore : p.session.armed with
      | true => exact hLive hBefore b hb
      | false =>
        -- Somebody begins to wait just now, and so there is no such report.
        have hTurn : turns p (p.perform c) = 1 := by simp [turns, hBefore, hArmed]
        rw [hPrompt hTurn, List.map_eq_nil_iff] at hEvents
        rw [hEvents] at hb
        cases hb
    · obtain ⟨event, _, rfl⟩ := List.mem_map.mp hCame
      rfl

/-- What is known of the reports that wait after a course of commands. -/
theorem watch_spec (hp : p.Open) (hEvents : waiting.map Arrival.event = p.pending)
    (hAged : Aged waiting) (commands : List Command) :
    (p.watch waiting commands).map Arrival.event = (p.run commands).pending ∧
      Aged (p.watch waiting commands) ∧
      (p.AllLive waiting → p.Prompt commands →
        (p.run commands).AllLive (p.watch waiting commands)) := by
  induction commands generalizing p waiting with
  | nil => exact ⟨hEvents, hAged, fun hLive _ => hLive⟩
  | cons c rest ih =>
    obtain ⟨hQueue, hOrder, hAll⟩ :=
      ih (hp.perform c) (events_watchStep hp hEvents c) (aged_watchStep hAged p c)
    exact ⟨hQueue, hOrder, fun hLive hPrompt =>
      hAll (allLive_watchStep hEvents hLive hPrompt.1) hPrompt.2⟩

/-- Results come only from handling what waits. -/
theorem results_perform (hp : p.Open) {c : Command} (h : c ≠ .process) :
    (p.perform c).results = p.results := by
  have hAccounts {q : Picker} (hSame : q.accounts = p.accounts) : q.results = p.results :=
    show q.accounts.results = p.accounts.results from congrArg _ hSame
  cases c with
  | arm dialect => exact hAccounts (p.accounts_arm dialect)
  | disarm => exact hAccounts p.accounts_disarm
  | toggle dialect => exact hAccounts (p.accounts_toggle dialect)
  | event e =>
    cases e with
    | report r => rw [perform, fire_report hp]
    | close => rw [perform, fire_close hp]
    | navigated mainFrame =>
      cases mainFrame with
      | true =>
        rw [perform, fire_navigated hp]
        exact (results_of_books (p.books_moveSession p.session.navigate) :)
      | false => rw [perform, fire_navigated_part]
    | pageClosed => rfl
  | process => exact absurd rfl h
  | verify text => exact hAccounts (p.accounts_verify text)
  | restage stage => rfl

/-- The reports that results come from, for a picker that is new to its page, after any course of
commands. Results come only from handling what waits, whatever was waited for when it came in, and one
at most if somebody waits then. All of them come from live reports exactly if those that are not live,
which are handled first, have no results; and so it is if no report waits whenever somebody begins to. -/
theorem run_origins (hp : p.Fresh) (commands : List Command) :
    let q := p.run commands
    let waiting := p.watch [] commands
    let gained := q.harvest waiting
    waiting.map Arrival.event = q.pending ∧
      (∀ c ≠ .process, (q.perform c).results = q.results) ∧
      q.process.2.results = q.results ++ gained.map Prod.fst ∧
      (∀ g ∈ gained, g.2 ∈ waiting) ∧ gained.length ≤ q.session.armed.toNat ∧
      (∃ old new, waiting = old ++ new ∧ (∀ a ∈ old, a.live = false) ∧
        (∀ a ∈ new, a.live = true) ∧
        ((∀ g ∈ gained, g.2.live = true) ↔ q.harvest old = [])) ∧
      (p.Prompt commands → ∀ g ∈ gained, g.2.live = true) := by
  intro q waiting gained
  have hNone : ([] : List Arrival).map Arrival.event = p.pending := hp.pending.symm
  obtain ⟨hEvents, ⟨old, new, hParts, hOld, hNew⟩, hPrompt⟩ :=
    watch_spec hp.toOpen hNone ⟨[], [], rfl, by simp, by simp⟩ commands
  obtain ⟨hResults, hLength⟩ := process_harvest hEvents
  refine ⟨hEvents, fun c hc => results_perform (hp.toOpen.run commands) hc, hResults,
    fun g hg => mem_of_mem_harvest hg, hLength, ⟨old, new, hParts, hOld, hNew, ?_⟩, ?_⟩
  · have hGained : gained = q.harvest (old ++ new) := congrArg q.harvest hParts
    rw [hGained]
    exact live_harvest_iff hOld hNew
  · intro hAll g hg
    -- Somebody waits, since there is a result.
    have hSome : 0 < q.session.armed.toNat :=
      Nat.lt_of_lt_of_le (List.length_pos_of_mem hg) hLength
    have hArmed : q.session.armed = true := by
      cases hIdle : q.session.armed with
      | true => rfl
      | false => simp [hIdle] at hSome
    have hLive : p.AllLive [] := by simp [AllLive]
    exact hPrompt hLive hAll hArmed g.2 (mem_of_mem_harvest hg)

/-- Somebody waits and clicks twice, and both clicks are handled; somebody waits again and clicks, gives
up, and waits for another click. -/
def lateClicks : List Command :=
  let click : Command := .event (.report [("index", .int 0)])
  [.arm none, click, click, .process, .toggle none, click, .disarm, .arm none, click]

def noteReader : Picker := ({ stage := noteStage } : Picker).attach

theorem run_origins_lateClicks :
    let q := noteReader.run lateClicks
    let waiting := noteReader.watch [] lateClicks
    noteReader.Fresh ∧ waiting.map Arrival.live = [false, true] ∧
      (q.harvest waiting).map (fun g => g.2.live) = [false] ∧ q.results.length = 1 ∧
      q.process.2.results.length = 2 := by
  have hFresh : noteReader.Fresh := fresh_attach rfl rfl rfl rfl
  obtain ⟨_, _, hResults, _⟩ := run_origins hFresh lateClicks
  have hGained : ((noteReader.run lateClicks).harvest (noteReader.watch [] lateClicks)).map
      (fun g => g.2.live) = [false] := by
    decide +kernel
  have hBefore : (noteReader.run lateClicks).results.length = 1 := by decide +kernel
  have hOne := congrArg List.length hGained
  have hAfter := congrArg List.length hResults
  rw [List.length_map] at hOne
  rw [List.length_append, List.length_map, hBefore, hOne] at hAfter
  exact ⟨hFresh, by decide +kernel, hGained, hBefore, hAfter⟩

/-- Two clicks that are answered late: the first came in while nobody waited, and whoever the second
came in for has given up since. -/
theorem harvest_staleClicks :
    let p := noteReader
    let click : Command := .event (.report [("index", .int 0)])
    let early : List Command := [click, .arm none]
    let ended : List Command := [.arm none, click, .toggle none, .toggle none]
    (((p.run early).harvest (p.watch [] early)).map (fun g => g.2.live) = [false] ∧
        (p.run early).process.2.results.length = 1) ∧
      ((p.run ended).harvest (p.watch [] ended)).map (fun g => g.2.live) = [false] ∧
        (p.run ended).process.2.results.length = 1 := by
  decide +kernel

end Picker
end StableLocator
