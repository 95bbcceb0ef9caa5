import StableLocator.Proofs.Browser.Accounts
import StableLocator.Proofs.Session.Panels

/-!
# The page and the session in step

The page has panels and a flag of its own, and knows of those of the session only what it is told. Each
panel event is carried over to it once, and whoever waits has told the page so, provided that the page
has its script each time it is asked for it.

* `PanelEvent.call`, `Picker.panelCalls`, `Picker.told` — what is carried over, and what the page was told;
* `Picker.Checked`, `Picker.AlwaysInstalled` — the page has its script whenever it is asked for it;
* `Picker.Carries`, `Picker.Ready` — all panel events are carried over; whoever waits has no panel up and
  has told the page;
* `Picker.Mirrors` — steps that carry panel events over and keep a picker ready;
* `Picker.mirrors_perform`, `Picker.mirrors_run` — one command, and a course of them;
* `Picker.run_attach_mirrors` — a picker from attaching its page to leaving it.
-/

namespace StableLocator

/-! ## Calls -/

def PanelEvent.call : PanelEvent → Call
  | .shown panel => .evaluate .showPanel (Picker.panelArgument panel)
  | .hidden _ => .evaluate .hidePanel .null

namespace Call

def isPanel : Call → Bool
  | .evaluate .showPanel _ | .evaluate .hidePanel _ => true
  | _ => false

def armed? : Call → Option Bool
  | .evaluate .setArmed (.bool armed) => some armed
  | _ => none

/-- The call asks whether the page has its script. -/
def isCheck : Call → Bool
  | .evaluate .installed _ => true
  | _ => false

/-- The call has nothing to do with panels or with waiting. -/
def IsPlain (c : Call) : Prop := c.isPanel = false ∧ c.armed? = none

end Call

/-- Every call for a panel event is a call about panels. -/
theorem filter_isPanel_map_call (news : List PanelEvent) :
    (news.map PanelEvent.call).filter Call.isPanel = news.map PanelEvent.call := by
  rw [List.filter_eq_self]
  intro c hc
  obtain ⟨event, _, rfl⟩ := List.mem_map.mp hc
  cases event <;> rfl

theorem filterMap_armed?_map_call (news : List PanelEvent) :
    (news.map PanelEvent.call).filterMap Call.armed? = [] := by
  rw [List.filterMap_eq_nil_iff]
  intro c hc
  obtain ⟨event, _, rfl⟩ := List.mem_map.mp hc
  cases event <;> rfl

namespace Picker

variable {p q r : Picker}

def panelCalls (p : Picker) : List Call := p.calls.filter Call.isPanel

/-- What the page was told last: whether to wait for a click. -/
def told (p : Picker) : Option Bool := (p.calls.filterMap Call.armed?).getLast?

theorem panelCalls_append {calls : List Call} (h : q.calls = p.calls ++ calls) :
    q.panelCalls = p.panelCalls ++ calls.filter Call.isPanel := by
  rw [panelCalls, h, List.filter_append, panelCalls]

/-- Calls that tell the page nothing about waiting leave it with what it was told before. -/
theorem told_append {calls : List Call} (h : q.calls = p.calls ++ calls)
    (hQuiet : calls.filterMap Call.armed? = []) : q.told = p.told := by
  rw [told, h, List.filterMap_append, hQuiet, List.append_nil, told]

/-! ## The script in the page -/

/-- Each time since then that the page was asked whether it has its script, it had. -/
def Checked (p q : Picker) : Prop :=
  ∀ past < q.calls.length, p.calls.length ≤ past → q.calls[past]?.any Call.isCheck = true →
    (p.stage.evaluate past .installed .null).toOption.any Json.isTruthy = true

instance (p q : Picker) : Decidable (p.Checked q) := inferInstanceAs (Decidable (∀ _ < _, _))

/-- Whenever the page is asked in a course of commands whether it has its script, it has. -/
def AlwaysInstalled (p : Picker) : List Command → Prop
  | [] => True
  | c :: rest => p.Checked (p.perform c) ∧ (p.perform c).AlwaysInstalled rest

instance decidableAlwaysInstalled (p : Picker) :
    (commands : List Command) → Decidable (p.AlwaysInstalled commands)
  | [] => .isTrue trivial
  | c :: rest =>
    have := (p.perform c).decidableAlwaysInstalled rest
    inferInstanceAs (Decidable (_ ∧ _))

/-- Only what was asked later counts for what comes later. -/
theorem Checked.later {s : Picker} (h : p.Checked q) (hStage : r.stage = p.stage)
    (hLonger : p.calls.length ≤ r.calls.length) (hCalls : s.calls = q.calls) : r.Checked s := by
  intro past hPast hSince hCheck
  rw [hCalls] at hPast hCheck
  rw [hStage]
  exact h past hPast (Nat.le_trans hLonger hSince) hCheck

/-- The page gets its script and is asked for it; only if it has it, it is told whether to wait. -/
theorem inject_eq (p : Picker) (armed : Bool) :
    p.inject armed =
      let asked : Picker :=
        { p with calls := p.calls ++ [.evaluate .inject .null, .evaluate .installed .null] }
      if (p.stage.evaluate (p.calls.length + 1) .installed .null).toOption.any Json.isTruthy then
        asked.ask (.evaluate .setArmed (.bool armed))
      else asked := by
  have hLength : (p.calls ++ [Call.evaluate .inject .null]).length = p.calls.length + 1 := by simp
  have hCalls : p.calls ++ [.evaluate .inject .null] ++ [.evaluate .installed .null] =
      p.calls ++ [Call.evaluate .inject .null, Call.evaluate .installed .null] :=
    List.append_assoc _ _ _
  simp only [inject, attempt, evaluate, ask, setArmed, hLength, hCalls]
  cases (p.stage.evaluate (p.calls.length + 1) .installed .null).toOption with
  | none => rfl
  | some answer => rfl

/-- Once a page that has its script gets it again, it is told whether to wait. -/
theorem calls_inject {armed : Bool} (h : p.Checked (p.inject armed)) :
    (p.inject armed).calls = p.calls ++
      [.evaluate .inject .null, .evaluate .installed .null, .evaluate .setArmed (.bool armed)] := by
  have hAnswer := h (p.calls.length + 1)
  rw [inject_eq] at hAnswer ⊢
  dsimp only at hAnswer ⊢
  split
  · exact List.append_assoc _ _ _
  · -- Whatever comes of it, the check is made, and so its answer is known.
    rename_i hMissing
    rw [if_neg hMissing] at hAnswer
    exact absurd (hAnswer (by simp) (Nat.le_succ _) (by simp [Call.isCheck])) hMissing

/-! ## Panel events -/

/-- An attached picker asks the page for every panel event. -/
theorem carry_eq (hAttached : p.attached = true) (event : PanelEvent) :
    p.carry event = p.ask event.call := by
  unfold carry
  rw [if_pos hAttached]
  cases event <;> rfl

/-- Panel events that are carried one after another are asked for in their order. -/
theorem foldl_carry (hAttached : p.attached = true) (news : List PanelEvent) :
    news.foldl carry p = { p with calls := p.calls ++ news.map PanelEvent.call } := by
  induction news generalizing p with
  | nil => rw [List.foldl_nil, List.map_nil, List.append_nil]
  | cons event news ih =>
    have hAsked : (p.ask event.call).attached = true := hAttached
    have hCalls : (p.ask event.call).calls ++ news.map PanelEvent.call =
        p.calls ++ (event :: news).map PanelEvent.call := by
      rw [List.map_cons, ask, List.append_assoc, List.singleton_append]
    rw [List.foldl_cons, carry_eq hAttached, ih hAsked, hCalls]
    rfl

/-- What happened to panels meanwhile is carried over, and nothing else is asked of the page. -/
theorem move_eq {desk : Desk} {news : List PanelEvent} (hAttached : p.attached = true)
    (hHistory : desk.session.history = p.session.history ++ news) :
    p.move desk = { p with desk, calls := p.calls ++ news.map PanelEvent.call } := by
  have hNews : desk.session.history.drop p.session.history.length = news := by
    rw [hHistory, List.drop_left]
  have hMoved : ({ p with desk } : Picker).attached = true := hAttached
  rw [move, hNews]
  exact foldl_carry hMoved news

/-- A session with some news moves: the session is new, and the page is asked for the news. -/
theorem moveSession_eq {s : Session} {news : List PanelEvent} (hAttached : p.attached = true)
    (hHistory : s.history = p.session.history ++ news) :
    p.moveSession s =
      { p with
        desk := { p.desk with session := s }
        calls := p.calls ++ news.map PanelEvent.call } :=
  @move_eq p { p.desk with session := s } news hAttached hHistory

/-! ## Steps -/

/-- What happened to the panels of the session meanwhile happened to those of the page. -/
def Carries (p q : Picker) : Prop :=
  ∃ news, q.session.history = p.session.history ++ news ∧
    q.panelCalls = p.panelCalls ++ news.map PanelEvent.call

namespace Carries

/-- Panel events that are carried over in two parts are carried over. -/
theorem trans (h₁ : Carries p q) (h₂ : Carries q r) : Carries p r := by
  obtain ⟨news₁, hHistory₁, hCalls₁⟩ := h₁
  obtain ⟨news₂, hHistory₂, hCalls₂⟩ := h₂
  refine ⟨news₁ ++ news₂, ?_, ?_⟩
  · rw [hHistory₂, hHistory₁, List.append_assoc]
  · rw [hCalls₂, hCalls₁, List.map_append, List.append_assoc]

/-- The session stays, and no panel is put up on the page or taken down. -/
theorem of_calls {calls : List Call} (hSession : q.session = p.session)
    (hCalls : q.calls = p.calls ++ calls) (hPanels : ∀ c ∈ calls, c.isPanel = false) :
    Carries p q := by
  have hNone : calls.filter Call.isPanel = [] := by
    rw [List.filter_eq_nil_iff]
    exact fun c hc => Bool.eq_false_iff.mp (hPanels c hc)
  refine ⟨[], ?_, ?_⟩
  · rw [hSession, List.append_nil]
  · rw [panelCalls_append hCalls, hNone, List.map_nil]

/-- A turn of the session is carried over to an attached page. -/
theorem move {desk : Desk} (hAttached : p.attached = true) (hTurn : p.session.Turn desk.session) :
    Carries p (p.move desk) := by
  obtain ⟨news, hHistory⟩ := hTurn.history_append
  rw [move_eq hAttached hHistory]
  refine ⟨news, hHistory, ?_⟩
  rw [panelCalls_append rfl, filter_isPanel_map_call]

end Carries

def Ready (p : Picker) : Prop :=
  p.session.armed = true → p.session.panel = none ∧ p.told = some true

/-- Panel events are carried over to the page, and the picker is ready if it was ready before. -/
structure Mirrors (p q : Picker) : Prop where
  carries : Carries p q
  ready : p.Ready → q.Ready

namespace Mirrors

/-- Mirroring goes on from one picker to the next. -/
theorem trans (h₁ : Mirrors p q) (h₂ : Mirrors q r) : Mirrors p r :=
  ⟨h₁.carries.trans h₂.carries, h₂.ready ∘ h₁.ready⟩

/-- Who does not wait is ready. -/
theorem of_idle (h : Carries p q) (hIdle : q.session.armed = false) : Mirrors p q :=
  ⟨h, fun _ hArmed => absurd hArmed (by simp [hIdle])⟩

/-- The session stays, and nothing that is asked of the page has to do with it. -/
theorem of_plain {calls : List Call} (hSession : q.session = p.session)
    (hCalls : q.calls = p.calls ++ calls) (hPlain : ∀ c ∈ calls, c.IsPlain) : Mirrors p q := by
  have hTold : q.told = p.told :=
    told_append hCalls (List.filterMap_eq_nil_iff.mpr fun c hc => (hPlain c hc).2)
  refine ⟨.of_calls hSession hCalls fun c hc => (hPlain c hc).1, fun hReady => ?_⟩
  rwa [Ready, hSession, hTold]

theorem ask (p : Picker) {c : Call} (hPlain : c.IsPlain) : Mirrors p (p.ask c) :=
  of_plain rfl rfl (List.forall_mem_singleton.mpr hPlain)

theorem of_same (hSession : q.session = p.session) (hCalls : q.calls = p.calls) : Mirrors p q :=
  of_plain hSession (hCalls.trans (List.append_nil _).symm) (by simp)

theorem refl (p : Picker) : Mirrors p p := of_same rfl rfl

/-- The desk changes, and whoever waits then did so before, and has no other panel up. -/
theorem move {desk : Desk} (hAttached : p.attached = true)
    (hTurn : p.session.Turn desk.session)
    (hArmed : desk.session.armed = true →
      p.session.armed = true ∧ (p.session.panel = none → desk.session.panel = none)) :
    Mirrors p (p.move desk) := by
  refine ⟨.move hAttached hTurn, ?_⟩
  obtain ⟨news, hHistory⟩ := hTurn.history_append
  rw [move_eq hAttached hHistory]
  intro hReady hNow
  obtain ⟨hBefore, hPanel⟩ := hArmed hNow
  obtain ⟨hNone, hTold⟩ := hReady hBefore
  exact ⟨hPanel hNone, (told_append rfl (filterMap_armed?_map_call news)).trans hTold⟩

/-- The desk changes, and nobody waits any more. -/
theorem move_idle {desk : Desk} (hAttached : p.attached = true)
    (hTurn : p.session.Turn desk.session) (hIdle : desk.session.armed = false) :
    Mirrors p (p.move desk) :=
  move hAttached hTurn fun hArmed => absurd hArmed (by simp [hIdle])

/-- Marks are no matter of panels. -/
theorem move_marked {desk : Desk} {marked : List Mark} (hAttached : p.attached = true)
    (h : desk.session = { p.session with marked }) : Mirrors p (p.move desk) := by
  refine move hAttached ?_ ?_
  · rw [h]
    exact .keep rfl rfl
  · rw [h]
    exact fun hArmed => ⟨hArmed, id⟩

theorem disarm (hAttached : p.attached = true) : Mirrors p (p.moveSession p.session.disarm.2) :=
  @move_idle p { p.desk with session := p.session.disarm.2 } hAttached (.keep rfl rfl) rfl

end Mirrors

/-! ## Switching -/

theorem session_inject (p : Picker) (armed : Bool) : (p.inject armed).session = p.session :=
  session_of_books (p.books_inject armed)

/-- Giving the page its script carries no panel event: there is none. -/
theorem carries_inject {armed : Bool} (h : p.Checked (p.inject armed)) :
    Carries p (p.inject armed) := by
  refine .of_calls (p.session_inject armed) (calls_inject h) fun c hc => ?_
  simp only [List.mem_cons, List.not_mem_nil, or_false] at hc
  rcases hc with rfl | rfl | rfl <;> rfl

/-- A page with its script was told last whether to wait. -/
theorem told_inject {armed : Bool} (h : p.Checked (p.inject armed)) :
    (p.inject armed).told = some armed := by
  rw [told, calls_inject h, List.filterMap_append]
  exact List.getLast?_concat

/-- Whoever begins to wait has the panel taken down, and the page is told to wait, too. -/
theorem mirrors_arm (hAttached : p.attached = true) {dialect : Option Dialect}
    (hChecked : p.Checked (p.arm dialect).2) : Mirrors p (p.arm dialect).2 := by
  cases hArm : p.session.arm dialect with
  | error fault =>
    have hSame : (p.arm dialect).2 = p := by simp only [arm, if_pos hAttached, hArm]
    rw [hSame]
    exact .refl p
  | ok outcome =>
    obtain ⟨changed, s⟩ := outcome
    -- The panel is taken down first; only then is the page told to wait.
    let moved := p.moveSession s
    obtain ⟨news, hHistory⟩ := (Session.turn_arm hArm).history_append
    have hMoved : moved = _ := moveSession_eq hAttached hHistory
    have hEnd : (p.arm dialect).2.session = (moved.inject true).session ∧
        (p.arm dialect).2.calls = (moved.inject true).calls := by
      simp only [arm, if_pos hAttached, hArm]
      split <;> exact ⟨rfl, rfl⟩
    have hThere : moved.Checked (moved.inject true) := by
      refine hChecked.later ?_ ?_ hEnd.2.symm
      · rw [hMoved]
      · simp [hMoved]
    have hMove : Carries p moved := .move hAttached (Session.turn_arm hArm)
    have hEndSame : Mirrors (moved.inject true) (p.arm dialect).2 := .of_same hEnd.1 hEnd.2
    refine ⟨(hMove.trans (carries_inject hThere)).trans hEndSame.carries, fun hReady _ => ⟨?_, ?_⟩⟩
    · rw [hEnd.1, session_inject, hMoved]
      rcases Session.arm_eq_ok hArm with ⟨hBefore, _, rfl⟩ | ⟨_, _, rfl⟩
      · exact (hReady hBefore).1
      · rfl
    · rw [told, hEnd.2]
      exact told_inject hThere

/-- Nobody waits any more, and the page is told so. -/
theorem mirrors_disarm (hAttached : p.attached = true) : Mirrors p p.disarm.2 := by
  let moved := p.moveSession p.session.disarm.2
  have hMoved : moved.books = _ := p.books_moveSession p.session.disarm.2
  have hKept : moved.attached = true := (attached_of_books hMoved :).trans hAttached
  have hMove : Carries p moved := .move hAttached (.keep rfl rfl)
  have hEnd : p.disarm.2.session = moved.session ∧
      p.disarm.2.calls = moved.calls ++ [.evaluate .setArmed (.bool false)] := by
    simp only [disarm, if_pos hKept, moved]
    split <;> exact ⟨rfl, rfl⟩
  refine .of_idle (hMove.trans (.of_calls hEnd.1 hEnd.2 ?_)) ?_
  · exact List.forall_mem_singleton.mpr rfl
  · rw [hEnd.1]
    exact congrArg Session.armed (session_of_books hMoved)

/-- Picking that is switched over is mirrored, if the page had its script when it was asked. -/
theorem mirrors_toggle (hAttached : p.attached = true) {dialect : Option Dialect}
    (hChecked : p.Checked (p.toggle dialect).2) : Mirrors p (p.toggle dialect).2 := by
  unfold toggle at hChecked ⊢
  split
  · exact mirrors_disarm hAttached
  · rename_i hIdle
    rw [if_neg hIdle] at hChecked
    exact mirrors_arm hAttached hChecked

/-! ## Verification -/

theorem mirrors_snapshot (p : Picker) : Mirrors p p.snapshot.2 := .ask p ⟨rfl, rfl⟩

theorem mirrors_outline (p : Picker) (indices : List Int) : Mirrors p (p.outline indices).2 :=
  .ask p ⟨rfl, rfl⟩

/-- Verifying is mirrored: of the session it changes the marks alone. -/
theorem mirrors_verify (hAttached : p.attached = true) (text : String) :
    Mirrors p (p.verify text).2 := by
  have hShot := p.mirrors_snapshot
  have hKept : p.snapshot.2.attached = true := hAttached
  unfold verify
  rw [if_pos hAttached]
  generalize p.snapshot = shot at hShot hKept ⊢
  obtain ⟨outcome, q⟩ := shot
  cases outcome with
  | error fault => exact hShot
  | ok page =>
    dsimp only
    generalize hVerify : (q.desk.take page).2.verify text (q.desk.take page).1 = verified
    have hMove : Mirrors q (q.move verified.2) := by
      obtain ⟨marked, hSession⟩ := (q.desk.take page).2.session_verify text (q.desk.take page).1 []
      rw [hVerify] at hSession
      exact .move_marked hKept hSession
    generalize q.move verified.2 = moved at hMove ⊢
    have hMoved : Mirrors p moved := hShot.trans hMove
    -- Reading the stamps and outlining may fail, and neither has to do with panels.
    split
    · exact hMoved
    · rename_i indices _
      have hOutline := hMoved.trans (moved.mirrors_outline indices)
      split
      · rename_i h
        rwa [h] at hOutline
      · rename_i h
        rw [h] at hOutline
        exact hOutline.trans (.of_same rfl rfl)

/-! ## Reports -/

theorem mirrors_dismiss (hAttached : p.attached = true) (message : String) :
    Mirrors p (p.dismiss message) :=
  (Mirrors.disarm hAttached).trans (.of_same rfl rfl)

/-- The panel with the answer to a pick is put up on the page, too. -/
theorem mirrors_pickAt (hAttached : p.attached = true) (page : Page) (place : Place) :
    Mirrors p (p.pickAt page place) := by
  unfold pickAt
  dsimp only
  generalize hPick : (p.desk.take page).2.pick ⟨(p.desk.take page).1, place⟩ = picked
  have hMove : Mirrors p (p.move picked.2) := by
    refine .move_idle hAttached ?_ ?_
    · rw [← hPick]
      exact Desk.turn_pick (p.desk.take page).2 _ _
    · rw [← hPick]
      exact Desk.armed_pick _ _ _
  split
  · exact hMove.trans (.of_same rfl rfl)
  · exact hMove

theorem mirrors_handlePick (p : Picker) (r : Report) : Mirrors p (p.handlePick r).2 := by
  unfold handlePick
  split
  · rename_i hWaits
    have hAttached : p.attached = true := (Bool.and_eq_true _ _ ▸ hWaits).1
    have hShot := p.mirrors_snapshot
    have hKept : p.snapshot.2.attached = true := hAttached
    split
    · exact .refl p
    · exact mirrors_dismiss hAttached _
    · split
      · rename_i hOutcome
        rwa [hOutcome] at hShot
      · rename_i hOutcome
        rw [hOutcome] at hShot hKept
        split
        · exact hShot.trans (mirrors_dismiss hKept _)
        · exact hShot.trans (mirrors_pickAt hKept _ _)
  · exact .refl p

theorem mirrors_handleSafely (hAttached : p.attached = true) (event : Pending) :
    Mirrors p (p.handleSafely event) := by
  have hHandle : Mirrors p (p.handle event).2 := by
    cases event with
    | pick r => exact p.mirrors_handlePick r
    | close =>
      refine .move hAttached p.session.turn_hide fun hArmed => ⟨?_, fun _ => rfl⟩
      exact (Session.armed_of_core p.session.core_hide).symm.trans hArmed
  unfold handleSafely
  split
  · rename_i hOutcome
    rwa [hOutcome] at hHandle
  · rename_i hOutcome
    rw [hOutcome] at hHandle
    exact hHandle.trans (.of_same rfl rfl)

/-- All that waits is handled, one mirrored step after another. -/
theorem mirrors_process (hAttached : p.attached = true) : Mirrors p p.process.2 := by
  induction hQueue : p.pending generalizing p with
  | nil =>
    rw [process_nil hQueue]
    exact .refl p
  | cons event rest ih =>
    let taken : Picker := { p with pending := rest }
    have hTaken : Mirrors p taken := .of_same rfl rfl
    have hHandled : Mirrors taken (taken.handleSafely event) :=
      @mirrors_handleSafely taken hAttached event
    have hKept : (taken.handleSafely event).attached = true :=
      (balanced_handleSafely taken event).attached.trans hAttached
    rw [process_cons hQueue]
    exact (hTaken.trans hHandled).trans (ih hKept (pending_handleSafely taken event))

/-- What happens on a page is mirrored: it may end the waiting. -/
theorem mirrors_fire (hp : p.Open) (e : PageEvent) : Mirrors p (p.fire e) := by
  cases e with
  | report r =>
    rw [fire_report hp]
    exact .of_same rfl rfl
  | close =>
    rw [fire_close hp]
    exact .of_same rfl rfl
  | navigated mainFrame =>
    cases mainFrame with
    | true =>
      rw [fire_navigated hp]
      exact (Mirrors.disarm hp.attached).trans (.of_same rfl rfl)
    | false =>
      rw [fire_navigated_part]
      exact .refl p
  | pageClosed => exact .of_same rfl rfl

/-! ## Courses of commands -/

/-- One command keeps the page in step with the session. -/
theorem mirrors_perform (hp : p.Open) {c : Command} (hChecked : p.Checked (p.perform c)) :
    Mirrors p (p.perform c) := by
  cases c with
  | arm dialect => exact mirrors_arm hp.attached hChecked
  | disarm => exact mirrors_disarm hp.attached
  | toggle dialect => exact mirrors_toggle hp.attached hChecked
  | event e => exact mirrors_fire hp e
  | process => exact mirrors_process hp.attached
  | verify text => exact mirrors_verify hp.attached text
  | restage stage => exact .of_same rfl rfl

/-- A course of commands is mirrored step by step, by `Mirrors.trans`. -/
theorem mirrors_run (hp : p.Open) {commands : List Command} (h : p.AlwaysInstalled commands) :
    Mirrors p (p.run commands) := by
  induction commands generalizing p with
  | nil => exact .refl p
  | cons c rest ih => exact (mirrors_perform hp h.1).trans (ih (hp.perform c) h.2)

/-- Leaving the page puts up no panel on it and takes none down. -/
theorem mirrors_shutdown (p : Picker) : Mirrors p p.shutdown := by
  have ask {q : Picker} (h : Mirrors p q) {c : Call} (hPlain : c.IsPlain) : Mirrors p (q.ask c) :=
    h.trans (.ask q hPlain)
  have close {q : Picker} (h : Mirrors p q) :
      Mirrors p (if q.owned && q.browser then q.ask .closeBrowser else q) := by
    split
    · exact ask h ⟨rfl, rfl⟩
    · exact h
  have stop {q : Picker} (h : Mirrors p q) : Mirrors p (if q.engine then q.ask .stopEngine else q) := by
    split
    · exact ask h ⟨rfl, rfl⟩
    · exact h
  have hRemoved : Mirrors p (p.attempt .remove).2 := .ask p ⟨rfl, rfl⟩
  unfold shutdown
  dsimp only
  split
  · exact (stop (close hRemoved)).trans (.of_same rfl rfl)
  · exact (stop (close (.refl p))).trans (.of_same rfl rfl)

/-! ## From attaching to leaving -/

/-- An attached picker gets the events of its page. -/
theorem open_attach (p : Picker) : p.attach.Open := by
  have hBooks : p.attach.books = { p with attached := true, bound := true }.books := books_inject _ _
  exact ⟨(attached_of_books hBooks :), (bound_of_books hBooks :)⟩

/-- A page that is attached and has its script is told whether somebody waits. -/
theorem mirrors_attach (hChecked : p.Checked p.attach) :
    Carries p p.attach ∧ p.attach.session = p.session ∧ p.attach.told = some p.session.armed := by
  let calls : List Call :=
    [.exposeBinding "__locatorPickerReport", .exposeBinding "__locatorPickerClosed", .addScript,
      .listen "framenavigated"]
  let listening : Picker := { p with attached := true, bound := true, calls := p.calls ++ calls }
  have hAttach : p.attach = listening.inject p.session.armed := by
    simp only [attach, ask, List.append_assoc]
    rfl
  have hThere : listening.Checked (listening.inject p.session.armed) := by
    rw [hAttach] at hChecked
    exact hChecked.later rfl (by simp [listening]) rfl
  have hListen : Carries p listening := @Carries.of_calls p listening calls rfl rfl (by decide)
  rw [hAttach]
  exact ⟨hListen.trans (carries_inject hThere), listening.session_inject _, told_inject hThere⟩

/-- A picker after any course of commands from attaching its page on, and after leaving that page, which
has its script whenever the picker asks for it. All that happened to panels was carried over to the page,
first to last, and nothing else; whoever waits has no panel up, and what the page was told last is to
wait. -/
theorem run_attach_mirrors (hPanel : p.session.armed = true → p.session.panel = none)
    (hAttach : p.Checked p.attach) {commands : List Command}
    (hCommands : p.attach.AlwaysInstalled commands) :
    let q := p.attach.run commands
    (Carries p q ∧ q.Ready) ∧ Carries p q.shutdown ∧ q.shutdown.Ready := by
  obtain ⟨hCarries, hSession, hTold⟩ := mirrors_attach hAttach
  have hReady : p.attach.Ready := by
    rw [Ready, hSession, hTold]
    exact fun hArmed => ⟨hPanel hArmed, congrArg some hArmed⟩
  have hRun : Mirrors p.attach (p.attach.run commands) := mirrors_run p.open_attach hCommands
  have hLeave := hRun.trans (mirrors_shutdown _)
  exact ⟨⟨hCarries.trans hRun.carries, hRun.ready hReady⟩, hCarries.trans hLeave.carries,
    hLeave.ready hReady⟩

/-- A page that can put up no panels and loses one call. -/
def dullStage : Stage :=
  { noteStage with failing := [.showPanel], exceptions := [(9, .error "lost")] }

/-- Two picks with a panel each; the first panel gives way to an arming and the second is closed on the
page before somebody waits again. -/
def twoPicks : List Command :=
  let click : Command := .event (.report [("index", .int 0)])
  [.arm none, click, .process, .toggle (some .js), click, .process, .event .close, .process,
    .verify "page.getByTestId(\"note\")", .arm none]

theorem run_attach_mirrors_twoPicks :
    let p : Picker := { stage := dullStage }
    let q := p.attach.run twoPicks
    p.Checked p.attach ∧ p.attach.AlwaysInstalled twoPicks ∧ q.session.history.length = 4 ∧
      q.panelCalls = q.session.history.map PanelEvent.call ∧ q.session.armed = true ∧
      q.session.panel = none ∧ q.told = some true := by
  intro p q
  have hAttach : p.Checked p.attach := by decide +kernel
  have hCommands : p.attach.AlwaysInstalled twoPicks := by decide +kernel
  have hArmed : q.session.armed = true := by decide +kernel
  obtain ⟨⟨⟨news, hHistory, hCalls⟩, hReady⟩, _⟩ :=
    run_attach_mirrors (p := p) (fun h => absurd h Bool.false_ne_true) hAttach hCommands
  have hNews : q.session.history = news := hHistory
  have hPanels : q.panelCalls = news.map PanelEvent.call := hCalls
  exact ⟨hAttach, hCommands, by decide +kernel, hNews ▸ hPanels, hArmed, hReady hArmed⟩

end Picker
end StableLocator
