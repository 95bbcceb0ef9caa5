import StableLocator.Session.Desk

/-!
# What actions leave alone

Panels come and go without any effect on the rest of a session. Switching changes whether the session
waits and which dialect it goes by, and only a verification changes pages and marks.

* `Session.core` — the session apart from its panels, which no panel event changes;
* `Session.arm_eq_ok` — the two ways in which switching on ends well;
* `Desk.act_frame` — what no action but a verification changes.
-/

namespace StableLocator
namespace Session

variable {s : Session}

/-! ## Panels -/

/-- The session apart from its panel and from what has happened to panels. -/
def core (s : Session) : Session := { s with panel := none, history := [] }

theorem core_close (s : Session) : s.close.core = s.core := by
  unfold close
  split
  · split
    · rfl
    · rfl
  · rfl

theorem core_hide (s : Session) : s.hide.core = s.core := s.core_close

theorem core_present (s : Session) (text : String) (severity : Severity) (isError : Bool) :
    (s.present text severity isError).core = s.core := s.core_close

theorem armed_of_core {s t : Session} (h : s.core = t.core) : s.armed = t.armed :=
  show s.core.armed = t.core.armed from congrArg _ h

theorem settings_of_core {s t : Session} (h : s.core = t.core) : s.settings = t.settings :=
  show s.core.settings = t.core.settings from congrArg _ h

theorem marked_of_core {s t : Session} (h : s.core = t.core) : s.marked = t.marked :=
  show s.core.marked = t.core.marked from congrArg _ h

/-! ## Switching -/

/-- Switching on ends well for a session that waits already, which does not change, and for one that
does not, which waits then, perhaps for another dialect, and has its panel taken down. -/
theorem arm_eq_ok {dialect : Option Dialect} {changed : Bool} {t : Session}
    (h : s.arm dialect = .ok (changed, t)) :
    (s.armed = true ∧ changed = false ∧ t = s) ∨
      (s.armed = false ∧ changed = true ∧
        t = { s with armed := true, dialect := dialect.getD s.dialect }.hide) := by
  unfold arm at h
  split at h
  · rename_i hArmed
    injection h with h
    cases h
    exact .inl ⟨hArmed, rfl, rfl⟩
  · rename_i hIdle
    have hIdle : s.armed = false := by simpa using hIdle
    cases dialect with
    | none =>
      injection h with h
      cases h
      exact .inr ⟨hIdle, rfl, rfl⟩
    | some d =>
      simp only at h
      split at h
      · injection h with h
        cases h
        exact .inr ⟨hIdle, rfl, rfl⟩
      · cases h

/-- Switching over ends well with the session switched off, if it waits, and else as switching on
does. -/
theorem toggle_eq_ok {dialect : Option Dialect} {on : Bool} {t : Session}
    (h : s.toggle dialect = .ok (on, t)) :
    (s.armed = true ∧ on = false ∧ t = s.disarm.2) ∨
      (s.armed = false ∧ ∃ changed, s.arm dialect = .ok (changed, t)) := by
  rw [toggle] at h
  split at h
  · rename_i hArmed
    injection h with h
    cases h
    exact .inl ⟨hArmed, rfl, rfl⟩
  · rename_i hIdle
    cases hArm : s.arm dialect with
    | error e =>
      rw [hArm] at h
      cases h
    | ok outcome =>
      rw [hArm] at h
      cases h
      exact .inr ⟨by simpa using hIdle, outcome.1, rfl⟩

end Session

namespace Desk

/-! ## Picks -/

/-- An answer ends the waiting; else the core stays. -/
theorem core_answered (s : Session) (answer : Except String Finding) :
    (answered s answer).core = { s with armed := false }.core := by
  cases answer with
  | ok f => exact Session.core_present _ _ _ _
  | error message => exact Session.core_present _ _ _ _

/-- A pick leaves nobody waiting. -/
theorem armed_pick (d : Desk) (m : Mark) (faults : Faults) :
    (d.pick m faults).2.session.armed = false := by
  unfold pick
  split
  · exact Session.armed_of_core (core_answered _ _)
  · rename_i hIdle
    simpa using hIdle

/-- A verification changes the marks of the session and nothing else about it. -/
theorem session_verify (d : Desk) (text : String) (number : Nat) (faults : Faults) :
    ∃ marked, (d.verify text number faults).2.session = { d.session with marked } := by
  unfold verify
  dsimp only
  split
  · exact ⟨_, rfl⟩
  · exact ⟨_, rfl⟩

/-! ## Actions -/

def Action.isVerify : Action → Bool
  | .verify _ _ _ => true
  | _ => false

/-- The two desks have the same pages, faults, settings and marks. -/
structure SameMarks (d e : Desk) : Prop where
  pages : e.pages = d.pages
  faults : e.faults = d.faults
  settings : e.session.settings = d.session.settings
  marked : e.session.marked = d.session.marked

variable {d : Desk}

theorem SameMarks.refl (d : Desk) : SameMarks d d := ⟨rfl, rfl, rfl, rfl⟩

/-- A session with the settings and marks of the desk takes the place of its session. -/
theorem SameMarks.of_session {s : Session} (hSettings : s.settings = d.session.settings)
    (hMarked : s.marked = d.session.marked) : SameMarks d { d with session := s } :=
  ⟨rfl, rfl, hSettings, hMarked⟩

/-- A session with the same core may take the place of another. -/
theorem SameMarks.of_core {s : Session} {t : Session} (h : s.core = t.core)
    (ht : SameMarks d { d with session := t }) : SameMarks d { d with session := s } :=
  .of_session ((Session.settings_of_core h).trans ht.settings)
    ((Session.marked_of_core h).trans ht.marked)

theorem SameMarks.arm {dialect : Option Dialect} {changed : Bool} {s : Session}
    (h : d.session.arm dialect = .ok (changed, s)) : SameMarks d { d with session := s } := by
  rcases Session.arm_eq_ok h with ⟨_, _, rfl⟩ | ⟨_, _, rfl⟩
  · exact .refl d
  · exact .of_core (Session.core_hide _) (.of_session rfl rfl)

/-- What no action but a verification changes. -/
theorem act_frame (d : Desk) {a : Action} (h : a.isVerify = false) : SameMarks d (d.act a).2 := by
  cases a with
  | arm dialect =>
    rw [act]
    cases hArm : d.session.arm dialect with
    | error e => exact .refl d
    | ok outcome => exact .arm hArm
  | disarm => exact .of_session rfl rfl
  | toggle dialect =>
    rw [act]
    cases hToggle : d.session.toggle dialect with
    | error e => exact .refl d
    | ok outcome =>
      obtain ⟨on, s⟩ := outcome
      rcases Session.toggle_eq_ok hToggle with ⟨_, _, rfl⟩ | ⟨_, _, hArm⟩
      · exact .of_session rfl rfl
      · exact .arm hArm
  | navigate => exact .of_session rfl rfl
  | pick m faults =>
    change SameMarks d (d.pick m faults).2
    unfold pick
    split
    · exact .of_core (core_answered _ _) (.of_session rfl rfl)
    · exact .refl d
  | verify text page faults => cases h
  | present text severity isError =>
    exact .of_core (Session.core_present _ _ _ _) (.of_session rfl rfl)
  | hide => exact .of_core (Session.core_hide _) (.of_session rfl rfl)
  | close => exact .of_core (Session.core_close _) (.of_session rfl rfl)

end Desk
end StableLocator
