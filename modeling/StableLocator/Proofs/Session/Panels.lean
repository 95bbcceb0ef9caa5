import StableLocator.Proofs.Session.Frame

/-!
# One panel at a time

A panel goes in several ways: by its own button, by a command, because the session begins to wait, or
because another panel takes its place. Whichever comes first closes it, and only that one does.

* `Session.shown`, `Session.up` — the panels that were ever put up, and those of them that are still up;
* `Session.ending` — what is still to happen to the panel of the session;
* `Session.close_eq`, `Session.hide_eq`, `Session.present_eq` — panels come and go by these equations;
* `Session.Turn` — all that one action can do to the panels;
* `Session.Orderly` — each panel is put up and closed before the next one is put up;
* `Desk.run_panels` — a course of actions.
-/

namespace StableLocator

/-! ## Events -/

def Panel.closed (p : Panel) : Panel := { p with isOpen := false }

/-- All that happens to a panel: it is put up, and it is closed. -/
def Panel.life (p : Panel) : List PanelEvent := [.shown p, .hidden p.closed]

def PanelEvent.shown? : PanelEvent → Option Panel
  | .shown panel => some panel
  | .hidden _ => none

/-- The panels that are up after an event. -/
def PanelEvent.replay (up : List Panel) : PanelEvent → List Panel
  | .shown panel => up ++ [panel]
  | .hidden panel => up.erase { panel with isOpen := true }

namespace Session

variable {s t : Session}

def shown (s : Session) : List Panel := s.history.filterMap PanelEvent.shown?

/-- The panels that were put up and not closed since. -/
def up (s : Session) : List Panel := s.history.foldl PanelEvent.replay []

/-- The panel of the session, if it is open. -/
def standing (s : Session) : Option Panel := s.panel.filter Panel.isOpen

/-- What is still to happen to the panel of the session: if it is open, it is closed. -/
def ending (s : Session) : List PanelEvent := s.standing.toList.map fun p => .hidden p.closed

theorem filterMap_shown?_ending (s : Session) : s.ending.filterMap PanelEvent.shown? = [] := by
  rw [ending, List.filterMap_map, List.filterMap_eq_nil_iff]
  exact fun _ _ => rfl

/-! ## Coming and going -/

/-- Closing adds to what has happened what is still to happen to the panel. -/
theorem close_eq (s : Session) :
    s.close = { s with panel := s.panel.map Panel.closed, history := s.history ++ s.ending } := by
  obtain ⟨settings, armed, dialect, panel, marked, history⟩ := s
  cases panel with
  | none => simp [close, ending, standing]
  | some p =>
    obtain ⟨text, severity, isError, isOpen⟩ := p
    cases isOpen with
    | false => simp [close, ending, standing, Panel.closed]
    | true => simp [close, note, ending, standing, Panel.closed, Option.filter]

theorem hide_eq (s : Session) : s.hide = { s with panel := none, history := s.history ++ s.ending } := by
  rw [hide, close_eq]

/-- Presenting ends one panel and puts up another. -/
theorem present_eq (s : Session) (text : String) (severity : Severity) (isError : Bool) :
    s.present text severity isError =
      { s with
        panel := some ⟨text, severity, isError, true⟩
        history := s.history ++ s.ending ++ [.shown ⟨text, severity, isError, true⟩] } := by
  rw [present, hide_eq]
  rfl

/-- What one action does to the panels: nothing at all, or the one that is up is closed, and perhaps
another one put up. -/
inductive Turn (s t : Session) : Prop
  | keep (panel : t.panel = s.panel) (history : t.history = s.history)
  | clear (standing : t.standing = none) (history : t.history = s.history ++ s.ending)
  | replace (p : Panel) (isOpen : p.isOpen = true) (panel : t.panel = some p)
      (history : t.history = s.history ++ s.ending ++ [.shown p])

/-- What has happened to panels is never forgotten. -/
theorem Turn.history_append (h : Turn s t) : ∃ news, t.history = s.history ++ news := by
  cases h with
  | keep _ history => exact ⟨[], history.trans (List.append_nil _).symm⟩
  | clear _ history => exact ⟨_, history⟩
  | replace p _ _ history => exact ⟨_, history.trans (List.append_assoc _ _ _)⟩

theorem turn_close (s : Session) : Turn s s.close := by
  rw [close_eq]
  refine .clear ?_ rfl
  cases hPanel : s.panel with
  | none => rfl
  | some p => rfl

theorem turn_hide (s : Session) : Turn s s.hide := by
  rw [hide_eq]
  exact .clear rfl rfl

theorem turn_present (s : Session) (text : String) (severity : Severity) (isError : Bool) :
    Turn s (s.present text severity isError) := by
  rw [present_eq]
  exact .replace _ rfl rfl rfl

/-- Only the panel and the history of the session before count. -/
theorem Turn.of_same {r : Session} (h : Turn r t) (hPanel : r.panel = s.panel)
    (hHistory : r.history = s.history) : Turn s t := by
  have hEnding : r.ending = s.ending := by rw [ending, standing, hPanel]; rfl
  cases h with
  | keep panel history => exact .keep (panel.trans hPanel) (history.trans hHistory)
  | clear standing history => exact .clear standing (by rw [history, hHistory, hEnding])
  | replace p isOpen panel history =>
    exact .replace p isOpen panel (by rw [history, hHistory, hEnding])

theorem turn_arm {dialect : Option Dialect} {changed : Bool} (h : s.arm dialect = .ok (changed, t)) :
    Turn s t := by
  rcases arm_eq_ok h with ⟨_, _, rfl⟩ | ⟨_, _, rfl⟩
  · exact .keep rfl rfl
  · have hHide := turn_hide { s with armed := true, dialect := dialect.getD s.dialect }
    exact hHide.of_same rfl rfl

theorem turn_toggle {dialect : Option Dialect} {on : Bool} (h : s.toggle dialect = .ok (on, t)) :
    Turn s t := by
  rcases toggle_eq_ok h with ⟨_, _, rfl⟩ | ⟨_, changed, hArm⟩
  · exact .keep rfl rfl
  · exact turn_arm hArm

/-! ## Order -/

/-- Each panel that was put up was open then, and it is closed before the next one is put up; the last
one may be up still. -/
structure Orderly (s : Session) : Prop where
  opened : ∀ p ∈ s.shown, p.isOpen = true
  lives : s.history ++ s.ending = s.shown.flatMap Panel.life
  up : s.up = s.standing.toList
  last : s.history.getLast?.bind PanelEvent.shown? = s.standing

theorem orderly_of_new (hPanel : s.panel = none) (hHistory : s.history = []) : s.Orderly where
  opened := by simp [shown, hHistory]
  lives := by simp [shown, ending, standing, hPanel, hHistory]
  up := by simp [Session.up, standing, hPanel, hHistory]
  last := by simp [standing, hPanel, hHistory]

/-- Nothing is up once the open panel is closed. -/
theorem Orderly.up_ending (h : s.Orderly) : s.ending.foldl PanelEvent.replay s.up = [] := by
  rw [h.up, ending]
  cases hStanding : s.standing with
  | none => rfl
  | some p =>
    obtain ⟨_, hOpen⟩ := Option.filter_eq_some_iff.mp hStanding
    have hReopened : { p.closed with isOpen := true } = p := by
      obtain ⟨text, severity, isError, isOpen⟩ := p
      cases hOpen
      rfl
    change [p].erase { p.closed with isOpen := true } = []
    rw [hReopened, List.erase_cons_head]

theorem Orderly.turn (h : s.Orderly) (hTurn : Turn s t) : t.Orderly := by
  cases hTurn with
  | keep panel history =>
    -- Nothing happens to panels, so every part of the order is as before.
    have hStanding : t.standing = s.standing := by rw [standing, panel]; rfl
    have hShown : t.shown = s.shown := by rw [shown, history]; rfl
    refine ⟨hShown ▸ h.opened, ?_, ?_, ?_⟩
    · rw [history, ending, hStanding, hShown]
      exact h.lives
    · rw [Session.up, history, hStanding]
      exact h.up
    · rw [history, hStanding]
      exact h.last
  | clear standing history =>
    -- What was still to happen has happened now.
    have hShown : t.shown = s.shown := by
      rw [shown, history, List.filterMap_append, filterMap_shown?_ending, List.append_nil]
      rfl
    refine ⟨hShown ▸ h.opened, ?_, ?_, ?_⟩
    · rw [ending, standing, history, hShown]
      exact (List.append_nil _).trans h.lives
    · rw [Session.up, history, List.foldl_append, standing]
      exact h.up_ending
    · rw [standing, history, ending]
      cases hStanding : s.standing with
      | none =>
        have hLast := h.last
        rwa [hStanding, ← List.append_nil s.history] at hLast
      | some p => simp [PanelEvent.shown?]
  | replace p isOpen panel history =>
    -- The old panel comes to its end, and the life of the new one begins.
    have hStanding : t.standing = some p := by simp [Session.standing, panel, isOpen, Option.filter]
    have hShown : t.shown = s.shown ++ [p] := by
      rw [shown, history, List.filterMap_append, List.filterMap_append, filterMap_shown?_ending,
        List.append_nil]
      rfl
    refine ⟨?_, ?_, ?_, ?_⟩
    · rw [hShown]
      intro q hq
      rcases List.mem_append.mp hq with hq | hq
      · exact h.opened q hq
      · exact List.mem_singleton.mp hq ▸ isOpen
    · have hEnding : t.ending = [.hidden p.closed] := by
        rw [ending, hStanding]
        rfl
      calc t.history ++ t.ending
          = s.history ++ s.ending ++ p.life := by
            rw [history, hEnding, List.append_assoc]
            rfl
        _ = t.shown.flatMap Panel.life := by
            rw [h.lives, hShown, List.flatMap_append, List.flatMap_singleton]
    · rw [Session.up, history, List.foldl_append, List.foldl_append, hStanding]
      exact congrArg (PanelEvent.replay · (.shown p)) h.up_ending
    · rw [history, hStanding, List.getLast?_concat]
      rfl

end Session

namespace Desk

variable {d : Desk}

/-! ## Actions -/

/-- The panel with the answer to a pick. -/
def panelOf (dialect : Dialect) : Except String Finding → Panel
  | .ok f =>
    { text := annotate (f.locator.render dialect) f.severity dialect, severity := f.severity }
  | .error message => { text := failureText message, severity := .critical, isError := true }

/-- An answered session does not wait any longer and has the answer for its panel. -/
theorem answered_eq (s : Session) (answer : Except String Finding) :
    answered s answer =
      { s with
        armed := false
        panel := some (panelOf s.dialect answer)
        history := s.history ++ s.ending ++ [.shown (panelOf s.dialect answer)] } := by
  cases answer with
  | ok f => exact Session.present_eq _ _ _ _
  | error message => exact Session.present_eq _ _ _ _

theorem turn_pick (d : Desk) (m : Mark) (faults : Faults) :
    d.session.Turn (d.pick m faults).2.session := by
  unfold pick
  split
  · have hOpen : (panelOf d.session.dialect (d.answer m faults)).isOpen = true := by
      cases d.answer m faults <;> rfl
    dsimp only
    rw [answered_eq]
    exact .replace _ hOpen rfl rfl
  · exact .keep rfl rfl

theorem turn_verify (d : Desk) (text : String) (number : Nat) (faults : Faults) :
    d.session.Turn (d.verify text number faults).2.session := by
  obtain ⟨marked, hSession⟩ := d.session_verify text number faults
  rw [hSession]
  exact .keep rfl rfl

/-- A switch is a turn if what it switches to is one; a refusal changes no panel. -/
theorem turn_switch {outcome : Except UnknownDialect (Bool × Session)}
    (h : ∀ on s, outcome = .ok (on, s) → d.session.Turn s) :
    d.session.Turn (d.switch outcome).2.session := by
  cases outcome with
  | error fault => exact .keep rfl rfl
  | ok found => exact h found.1 found.2 rfl

/-- One action does no more to the panels than a turn. -/
theorem turn_act (d : Desk) (a : Action) : d.session.Turn (d.act a).2.session := by
  cases a with
  | arm dialect => exact turn_switch fun _ _ => Session.turn_arm
  | disarm => exact .keep rfl rfl
  | toggle dialect => exact turn_switch fun _ _ => Session.turn_toggle
  | navigate => exact .keep rfl rfl
  | pick m faults => exact d.turn_pick m faults
  | verify text number faults => exact d.turn_verify text number faults
  | present text severity isError => exact Session.turn_present _ _ _ _
  | hide => exact Session.turn_hide _
  | close => exact Session.turn_close _

/-- A course of actions keeps panels in order. -/
theorem orderly_run (h : d.session.Orderly) (actions : List Action) :
    (d.run actions).session.Orderly := by
  induction actions generalizing d with
  | nil => exact h
  | cons a actions ih => exact ih (h.turn (d.turn_act a))

/-- The panels of a desk that nobody has used yet, after any course of actions. Each panel that is put
up is open then and is closed before the next one is put up, and its closing is told once, when it is
closed already; only the last one may still be up, and then it is the open panel of the session. The
session has an open panel exactly when the last event was that it was put up. -/
theorem run_panels (d : Desk) (hPanel : d.session.panel = none) (hHistory : d.session.history = [])
    (actions : List Action) :
    let s := (d.run actions).session
    (∀ p ∈ s.shown, p.isOpen = true) ∧
      s.history ++ s.ending = s.shown.flatMap Panel.life ∧
      s.up = (s.panel.filter Panel.isOpen).toList ∧
      ∀ p, s.history.getLast? = some (.shown p) ↔ s.panel = some p ∧ p.isOpen = true := by
  intro s
  have h : s.Orderly := orderly_run (Session.orderly_of_new hPanel hHistory) actions
  refine ⟨h.opened, h.lives, h.up, fun p => ?_⟩
  have hLast : s.history.getLast? = some (.shown p) ↔ s.standing = some p := by
    rw [← h.last]
    cases s.history.getLast? with
    | none => simp
    | some event => cases event <;> simp [PanelEvent.shown?]
  rw [hLast]
  exact Option.filter_eq_some_iff

/-- A panel is closed by its button and then taken down, and the next one gives way to a third. -/
def changingPanels : List Action :=
  [.present "one" .none false, .close, .hide, .present "two" .warning false,
    .present "three" .critical true]

theorem run_panels_changingPanels :
    let one : Panel := { text := "one", severity := .none }
    let two : Panel := { text := "two", severity := .warning }
    let three : Panel := { text := "three", severity := .critical, isError := true }
    let s := (({} : Desk).run changingPanels).session
    ({} : Desk).session.panel = none ∧ ({} : Desk).session.history = [] ∧
      s.shown = [one, two, three] ∧
      s.history ++ [.hidden three.closed] =
        [.shown one, .hidden one.closed, .shown two, .hidden two.closed, .shown three,
          .hidden three.closed] ∧
      s.up = [three] ∧ s.panel = some three := by
  obtain ⟨_, hLives, hUp, hLast⟩ := run_panels {} rfl rfl changingPanels
  have hShown : (({} : Desk).run changingPanels).session.history.getLast? = some
      (.shown { text := "three", severity := .critical, isError := true }) := by decide
  exact ⟨rfl, rfl, by decide, hLives, hUp, ((hLast _).mp hShown).1⟩

end Desk
end StableLocator
