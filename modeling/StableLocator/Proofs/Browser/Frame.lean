import StableLocator.Proofs.Browser.Mirror

/-!
# What commands leave alone

A picker works by the settings that it began with: whatever is done to it and whatever happens on the
page, no command changes them.

* `Picker.settings_move` — carrying panels over to the page is no matter of settings;
* `Picker.settings_perform` and `Picker.settings_run` — one command, and a course of them.
-/

namespace StableLocator
namespace Picker

variable {p : Picker}

/-! ## Switching -/

/-- A move to a desk with the same settings keeps them. -/
theorem settings_move {desk : Desk} (h : desk.session.settings = p.session.settings) :
    (p.move desk).session.settings = p.session.settings :=
  (congrArg Session.settings (session_of_books (p.books_move desk))).trans h

theorem settings_moveSession {s : Session} (h : s.settings = p.session.settings) :
    (p.moveSession s).session.settings = p.session.settings :=
  @settings_move p { p.desk with session := s } h

theorem settings_arm (p : Picker) (dialect : Option Dialect) :
    (p.arm dialect).2.session.settings = p.session.settings := by
  unfold arm
  split
  · cases hArm : p.session.arm dialect with
    | error fault => rfl
    | ok outcome =>
      have hMove := @settings_moveSession p outcome.2 (Desk.SameMarks.arm hArm).settings
      have hInject := congrArg Session.settings ((p.moveSession outcome.2).session_inject true)
      dsimp only
      split
      · exact hInject.trans hMove
      · exact hInject.trans hMove
  · rfl

theorem settings_disarm (p : Picker) : p.disarm.2.session.settings = p.session.settings := by
  have hMove := @settings_moveSession p p.session.disarm.2 rfl
  unfold disarm
  dsimp only
  split <;> split <;> exact hMove

theorem settings_toggle (p : Picker) (dialect : Option Dialect) :
    (p.toggle dialect).2.session.settings = p.session.settings := by
  unfold toggle
  split
  · exact p.settings_disarm
  · exact p.settings_arm dialect

/-! ## Reports -/

theorem settings_pickAt (p : Picker) (page : Page) (place : Place) :
    (p.pickAt page place).session.settings = p.session.settings := by
  have hPick : ((p.desk.take page).2.pick ⟨(p.desk.take page).1, place⟩).2.session.settings =
      p.session.settings :=
    (Desk.act_frame (p.desk.take page).2 (a := .pick ⟨(p.desk.take page).1, place⟩ []) rfl).settings
  unfold pickAt
  dsimp only
  split
  · exact settings_move hPick
  · exact settings_move hPick

theorem settings_dismiss (p : Picker) (message : String) :
    (p.dismiss message).session.settings = p.session.settings :=
  @settings_moveSession p p.session.disarm.2 rfl

theorem settings_handlePick (p : Picker) (r : Report) :
    (p.handlePick r).2.session.settings = p.session.settings := by
  have hAsked : p.snapshot.2.session.settings = p.session.settings := rfl
  unfold handlePick
  split
  · split
    · rfl
    · exact p.settings_dismiss _
    · split
      · rename_i hOutcome
        rwa [hOutcome] at hAsked
      · rename_i hOutcome
        rw [hOutcome] at hAsked
        split
        · exact (settings_dismiss _ _).trans hAsked
        · exact (settings_pickAt _ _ _).trans hAsked
  · rfl

theorem settings_handleSafely (p : Picker) (event : Pending) :
    (p.handleSafely event).session.settings = p.session.settings := by
  have hHandle : (p.handle event).2.session.settings = p.session.settings := by
    cases event with
    | pick r => exact p.settings_handlePick r
    | close => exact settings_moveSession (Session.settings_of_core p.session.core_hide)
  unfold handleSafely
  split
  · rename_i hOutcome
    rwa [hOutcome] at hHandle
  · rename_i hOutcome
    rw [hOutcome] at hHandle
    exact hHandle

theorem settings_process (p : Picker) : p.process.2.session.settings = p.session.settings := by
  induction hQueue : p.pending generalizing p with
  | nil => rw [process_nil hQueue]
  | cons event rest ih =>
    rw [process_cons hQueue]
    exact (ih _ (pending_handleSafely { p with pending := rest } event)).trans
      (settings_handleSafely { p with pending := rest } event)

/-! ## Verification -/

/-- Verifying uses the settings and does not change them. -/
theorem settings_verify (p : Picker) (text : String) :
    (p.verify text).2.session.settings = p.session.settings := by
  have hAsked : p.snapshot.2.session.settings = p.session.settings := rfl
  unfold verify
  split
  · generalize p.snapshot = shot at hAsked ⊢
    obtain ⟨outcome, q⟩ := shot
    cases outcome with
    | error fault => exact hAsked
    | ok page =>
      dsimp only
      generalize hVerify : (q.desk.take page).2.verify text (q.desk.take page).1 = verified
      have hMove : (q.move verified.2).session.settings = p.session.settings := by
        obtain ⟨marked, hSession⟩ := (q.desk.take page).2.session_verify text (q.desk.take page).1 []
        rw [hVerify] at hSession
        exact (settings_move (congrArg Session.settings hSession :)).trans hAsked
      generalize q.move verified.2 = moved at hMove ⊢
      -- Reading the stamps and outlining may fail, and neither has to do with the session.
      split
      · exact hMove
      · rename_i indices _
        have hOutline : (moved.outline indices).2.session.settings = p.session.settings := hMove
        split <;> rename_i h <;> rw [h] at hOutline <;> exact hOutline
  · rfl

/-! ## Courses of commands -/

/-- No command changes the settings. -/
theorem settings_perform (p : Picker) (c : Command) :
    (p.perform c).session.settings = p.session.settings := by
  cases c with
  | arm dialect => exact p.settings_arm dialect
  | disarm => exact p.settings_disarm
  | toggle dialect => exact p.settings_toggle dialect
  | event e =>
    cases e with
    | report r | close =>
      show (p.fire _).session.settings = _
      rw [fire]
      split <;> rfl
    | navigated mainFrame =>
      show (p.fire _).session.settings = _
      rw [fire]
      split
      · exact @settings_moveSession p p.session.navigate rfl
      · rfl
    | pageClosed => rfl
  | process => exact p.settings_process
  | verify text => exact p.settings_verify text
  | restage stage => rfl

/-- No course of commands changes the settings. -/
theorem settings_run (p : Picker) (commands : List Command) :
    (p.run commands).session.settings = p.session.settings := by
  induction commands generalizing p with
  | nil => rfl
  | cons c rest ih => exact (ih (p.perform c)).trans (p.settings_perform c)

end Picker
end StableLocator
