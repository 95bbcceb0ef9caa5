import StableLocator.Proofs.Outcome
import StableLocator.Proofs.Session.Panels

/-!
# One pick for each arming

A session that waits is done with waiting after one pick, so that over a whole course no more picks are
answered than sessions were armed. The dialect is that of the last arming that gave one.

* `Desk.Switches` — how picks and switches act on a desk;
* `Desk.arms`, `Desk.consumes`, `Desk.givenBy` — what an action counts for;
* `Desk.waits_act`, `Desk.dialect_act` — one action;
* `Desk.consumed_run`, `Desk.dialect_run` — a course of actions;
* `Desk.run_armings` — a desk that nobody has used yet.
-/

namespace StableLocator

namespace Session

variable {s : Session}

theorem dialect_of_core {s t : Session} (h : s.core = t.core) : s.dialect = t.dialect :=
  show s.core.dialect = t.core.dialect from congrArg _ h

/-! ## Refusals -/

/-- Switching on is refused only to a session that does not wait, for a dialect that nobody knows. -/
theorem arm_eq_error_iff {dialect : Option Dialect} {fault : UnknownDialect} :
    s.arm dialect = .error fault ↔
      s.armed = false ∧ ∃ d ∉ Dialect.known, fault = ⟨d.name⟩ ∧ dialect = some d := by
  unfold arm
  constructor
  · intro h
    split at h
    · cases h
    · rename_i hIdle
      cases dialect with
      | none => cases h
      | some d =>
        dsimp only at h
        split at h
        · cases h
        · rename_i hUnknown
          cases h
          exact ⟨by simpa using hIdle, d, by simpa using hUnknown, rfl, rfl⟩
  · rintro ⟨hIdle, d, hUnknown, rfl, rfl⟩
    simp [hIdle, hUnknown]

/-- Switching over is refused just if nobody waits and the dialect is unknown. -/
theorem toggle_eq_error_iff {dialect : Option Dialect} {fault : UnknownDialect} :
    s.toggle dialect = .error fault ↔
      s.armed = false ∧ ∃ d ∉ Dialect.known, fault = ⟨d.name⟩ ∧ dialect = some d := by
  rw [toggle]
  split
  · rename_i hArmed
    simp [hArmed]
  · rw [map_eq_error, arm_eq_error_iff]

end Session

namespace Desk

variable {d : Desk}

/-- An answer is shown by one panel. -/
theorem shown_answered (s : Session) (answer : Except String Finding) :
    (answered s answer).panel = some (panelOf s.dialect answer) ∧
      (answered s answer).shown = s.shown ++ [panelOf s.dialect answer] := by
  rw [answered_eq]
  refine ⟨rfl, ?_⟩
  rw [Session.shown, List.filterMap_append, List.filterMap_append, Session.filterMap_shown?_ending,
    List.append_nil]
  rfl

/-! ## Picks and switches -/

/-- How picks and switches act on a desk: a pick is answered only if the session waits for it, and
then shows one panel and ends the waiting; what is refused changes nothing, and neither does arming
what waits already. -/
structure Switches (d : Desk) : Prop where
  idle : ∀ m faults, d.session.armed = false → d.pick m faults = (none, d)
  waiting : ∀ m faults, d.session.armed = true →
    (d.pick m faults).1 = (d.answer m faults).toOption ∧
      (d.pick m faults).2.session.armed = false ∧
      (d.pick m faults).2.session.panel = some (panelOf d.session.dialect (d.answer m faults)) ∧
      (d.pick m faults).2.session.shown =
        d.session.shown ++ [panelOf d.session.dialect (d.answer m faults)]
  disarmed : (d.act .disarm).2.session.armed = false
  navigated : (d.act .navigate).2.session.armed = false
  refused : ∀ a fault, (d.act a).1 = .refused fault ↔
    d.session.armed = false ∧ ∃ dialect ∉ Dialect.known, fault = ⟨dialect.name⟩ ∧
      (a = .arm (some dialect) ∨ a = .toggle (some dialect))
  unchanged : ∀ a fault, (d.act a).1 = .refused fault → (d.act a).2 = d
  rearmed : ∀ dialect, d.session.armed = true → d.act (.arm dialect) = (.flag false, d)

/-- An action is refused just if nobody waits and it would wait for an unknown dialect. -/
theorem act_refused_iff {a : Action} {fault : UnknownDialect} : (d.act a).1 = .refused fault ↔
    d.session.armed = false ∧ ∃ dialect ∉ Dialect.known, fault = ⟨dialect.name⟩ ∧
      (a = .arm (some dialect) ∨ a = .toggle (some dialect)) := by
  have hSwitch (outcome : Except UnknownDialect (Bool × Session)) :
      (d.switch outcome).1 = .refused fault ↔ outcome = .error fault := by
    cases outcome with
    | error e => simp [switch]
    | ok found => simp [switch]
  cases a with
  | arm dialect =>
    rw [act, hSwitch, Session.arm_eq_error_iff]
    simp
  | toggle dialect =>
    rw [act, hSwitch, Session.toggle_eq_error_iff]
    simp
  | disarm | navigate | pick | verify | present | hide | close => simp [act]

theorem act_of_refused {a : Action} {fault : UnknownDialect} (h : (d.act a).1 = .refused fault) :
    (d.act a).2 = d := by
  have hSwitch {outcome : Except UnknownDialect (Bool × Session)}
      (h : (d.switch outcome).1 = .refused fault) : (d.switch outcome).2 = d := by
    cases outcome with
    | error e => rfl
    | ok found => cases h
  cases a with
  | arm dialect => exact hSwitch h
  | toggle dialect => exact hSwitch h
  | disarm | navigate | pick | verify | present | hide | close => cases h

/-- Every desk switches as it should, action by action. -/
theorem switches (d : Desk) : d.Switches where
  idle := by
    intro m faults hIdle
    rw [pick, hIdle]
    rfl
  waiting := by
    intro m faults hArmed
    have hPick : d.pick m faults = ((d.answer m faults).toOption,
        { d with session := answered d.session (d.answer m faults) }) := by
      rw [pick, if_pos hArmed]
    obtain ⟨hPanel, hShown⟩ := shown_answered d.session (d.answer m faults)
    have hIdle := d.armed_pick m faults
    rw [hPick] at hIdle ⊢
    exact ⟨rfl, hIdle, hPanel, hShown⟩
  disarmed := rfl
  navigated := rfl
  refused := fun a fault => act_refused_iff
  unchanged := fun a fault => act_of_refused
  rearmed := by
    intro dialect hArmed
    have hArm : d.session.arm dialect = .ok (false, d.session) := if_pos hArmed
    rw [act, hArm]
    rfl

/-! ## What an action counts for -/

def Action.isPick : Action → Bool
  | .pick _ _ => true
  | _ => false

def Action.dialect? : Action → Option Dialect
  | .arm dialect | .toggle dialect => dialect
  | _ => none

/-- The session begins to wait. -/
def arms (d : Desk) (a : Action) : Bool := !d.session.armed && (d.act a).2.session.armed

/-- The action is a pick that the session waits for. -/
def consumes (d : Desk) (a : Action) : Bool := d.session.armed && a.isPick

/-- The dialect that is given when the session begins to wait. -/
def givenBy (d : Desk) (a : Action) : List Dialect := if d.arms a then a.dialect?.toList else []

/-- A session waits after an action only if it began to wait then or waited before, and was not picked
for. -/
theorem waits_act (d : Desk) (a : Action) :
    (d.consumes a).toNat + (d.act a).2.session.armed.toNat ≤
      d.session.armed.toNat + (d.arms a).toNat := by
  cases hArmed : d.session.armed with
  | false => simp [consumes, arms, hArmed]
  | true =>
    cases hPick : a.isPick with
    | false =>
      have hMost := Bool.toNat_le (d.act a).2.session.armed
      simp only [consumes, hArmed, hPick, Bool.and_false, Bool.toNat_false, Bool.toNat_true]
      omega
    | true =>
      cases a with
      | pick m faults =>
        have hIdle : (d.act (.pick m faults)).2.session.armed = false := d.armed_pick m faults
        simp [consumes, hArmed, hPick, hIdle]
      | _ => cases hPick

/-- A session that begins to wait goes by the dialect that is given, any other one by its own. -/
theorem dialect_of_arm {s t : Session} {dialect : Option Dialect} {changed : Bool}
    (h : s.arm dialect = .ok (changed, t)) :
    t.dialect = (if !s.armed && t.armed then dialect.toList else []).getLast?.getD s.dialect := by
  rcases Session.arm_eq_ok h with ⟨hArmed, _, rfl⟩ | ⟨hIdle, _, rfl⟩
  · simp [hArmed]
  · rw [Session.hide_eq, hIdle]
    cases dialect with
    | none => rfl
    | some given => rfl

/-- Only switching on changes the dialect. -/
theorem dialect_act_of_ne {a : Action} (hArm : ∀ dialect, a ≠ .arm dialect)
    (hToggle : ∀ dialect, a ≠ .toggle dialect) :
    (d.act a).2.session.dialect = d.session.dialect := by
  cases a with
  | arm dialect => exact absurd rfl (hArm dialect)
  | toggle dialect => exact absurd rfl (hToggle dialect)
  | disarm | navigate => rfl
  | pick m faults =>
    change (d.pick m faults).2.session.dialect = d.session.dialect
    unfold pick
    split
    · have hSame := Session.dialect_of_core (core_answered d.session (d.answer m faults))
      exact hSame
    · rfl
  | verify text page faults =>
    obtain ⟨marked, hSession⟩ := d.session_verify text page faults
    exact (congrArg Session.dialect hSession :)
  | present text severity isError => exact Session.dialect_of_core (Session.core_present _ _ _ _)
  | hide => exact Session.dialect_of_core (Session.core_hide _)
  | close => exact Session.dialect_of_core (Session.core_close _)

/-- The dialect stays, unless another one is given when the session begins to wait. -/
theorem dialect_act (d : Desk) (a : Action) :
    (d.act a).2.session.dialect = (d.givenBy a).getLast?.getD d.session.dialect := by
  -- A switch that is refused leaves an idle session idle.
  have hRefused {a : Action} (h : (d.act a).2 = d) :
      (d.act a).2.session.dialect = (d.givenBy a).getLast?.getD d.session.dialect := by
    rw [givenBy, arms, h]
    simp
  cases a with
  | arm dialect =>
    cases hArm : d.session.arm dialect with
    | error fault => exact hRefused (by rw [act, hArm]; rfl)
    | ok outcome =>
      have hAct : (d.act (.arm dialect)).2.session = outcome.2 := by rw [act, hArm]; rfl
      rw [givenBy, arms, hAct]
      exact dialect_of_arm hArm
  | toggle dialect =>
    cases hToggle : d.session.toggle dialect with
    | error fault => exact hRefused (by rw [act, hToggle]; rfl)
    | ok outcome =>
      have hAct : (d.act (.toggle dialect)).2.session = outcome.2 := by rw [act, hToggle]; rfl
      rw [givenBy, arms, hAct]
      rcases Session.toggle_eq_ok hToggle with ⟨hArmed, _, hDisarm⟩ | ⟨_, changed, hArm⟩
      · rw [hDisarm, hArmed]
        rfl
      · exact dialect_of_arm hArm
  | disarm | navigate | pick | verify | present | hide | close =>
    rw [dialect_act_of_ne (by simp) (by simp), givenBy]
    simp [Action.dialect?]

/-! ## Courses of actions -/

/-- How often the session begins to wait in a course of actions. -/
def armings (d : Desk) : List Action → Nat
  | [] => 0
  | a :: rest => (d.arms a).toNat + (d.act a).2.armings rest

def consumed (d : Desk) : List Action → Nat
  | [] => 0
  | a :: rest => (d.consumes a).toNat + (d.act a).2.consumed rest

/-- The dialects that are given when the session begins to wait, first to last. -/
def given (d : Desk) : List Action → List Dialect
  | [] => []
  | a :: rest => d.givenBy a ++ (d.act a).2.given rest

/-- No more picks are answered than the session began to wait, in a course and before it. -/
theorem consumed_run (d : Desk) (actions : List Action) :
    d.consumed actions + (d.run actions).session.armed.toNat ≤
      d.session.armed.toNat + d.armings actions := by
  induction actions generalizing d with
  | nil => exact Nat.le_of_eq (Nat.zero_add _)
  | cons a actions ih =>
    have hStep := d.waits_act a
    have hRest := ih (d.act a).2
    have hRun : d.run (a :: actions) = (d.act a).2.run actions := rfl
    rw [hRun, consumed, armings]
    omega

/-- After a course, the dialect is the last one that was given, if any was. -/
theorem dialect_run (d : Desk) (actions : List Action) :
    (d.run actions).session.dialect = (d.given actions).getLast?.getD d.session.dialect := by
  induction actions generalizing d with
  | nil => rfl
  | cons a actions ih =>
    have hRun : d.run (a :: actions) = (d.act a).2.run actions := rfl
    rw [hRun, ih, dialect_act, given, List.getLast?_append]
    cases ((d.act a).2.given actions).getLast? with
    | none => rfl
    | some dialect => rfl

/-- After any course of actions, a desk that nobody has used yet answers one pick for each arming at
most, goes by the last dialect that was given, or else by that of its settings, and goes on to act on
picks and switches like any desk. -/
theorem run_armings (d : Desk) (hIdle : d.session.armed = false)
    (hDialect : d.session.dialect = d.session.settings.dialect) (actions : List Action) :
    (d.run actions).Switches ∧
    d.consumed actions ≤ d.armings actions ∧
    (d.run actions).session.dialect =
      (d.given actions).getLast?.getD d.session.settings.dialect := by
  refine ⟨switches _, ?_, ?_⟩
  · have hRun := d.consumed_run actions
    rw [hIdle, Bool.toNat_false] at hRun
    omega
  · rw [dialect_run, hDialect]

/-- Two picks for one arming, and an arming for a dialect that nobody knows. -/
def hastyActions : List Action :=
  [.toggle (some .js), .pick ⟨0, []⟩ [], .pick ⟨0, []⟩ [], .arm (some ⟨"ruby"⟩), .arm none]

theorem run_armings_hastyActions :
    ({} : Desk).session.armed = false ∧
      ({} : Desk).consumed hastyActions = 1 ∧ ({} : Desk).armings hastyActions = 2 ∧
      (({} : Desk).run hastyActions).session.dialect = .js ∧
      (({} : Desk).run hastyActions).Switches := by
  obtain ⟨hSwitches, _, hDialect⟩ := run_armings {} rfl rfl hastyActions
  exact ⟨rfl, by decide, by decide, hDialect.trans (by decide), hSwitches⟩

end Desk
end StableLocator
