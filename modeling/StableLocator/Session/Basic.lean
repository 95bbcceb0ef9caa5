import StableLocator.Settings.Basic

/-!
# Sessions

A session waits for one pick at a time: it is armed, a pick or a command disarms it, and the result
shows on a panel until the next one takes its place. What happens to panels is kept as a history of
events.

* `Session.arm`, `Session.disarm`, `Session.toggle` switch the waiting on and off.
* `Session.present` and `Session.hide` put up a panel and take it down.
-/

namespace StableLocator

structure Panel where
  text : String
  severity : Severity
  isError : Bool := false
  isOpen : Bool := true
  deriving DecidableEq, Repr

def Panel.copyText (p : Panel) : String := copyable p.text

inductive PanelEvent
  | shown (panel : Panel)
  | hidden (panel : Panel)
  deriving DecidableEq, Repr

structure Mark where
  page : Nat
  place : Place
  deriving DecidableEq, Repr

structure Session where
  settings : Settings := {}
  armed : Bool := false
  dialect : Dialect := settings.dialect
  panel : Option Panel := none
  /-- The elements that the last verification marked. -/
  marked : List Mark := []
  /-- What has happened to panels, first to last. -/
  history : List PanelEvent := []
  deriving DecidableEq, Repr

structure UnknownDialect where
  name : String
  deriving DecidableEq, Repr

def UnknownDialect.message (e : UnknownDialect) : String := "Unknown dialect: " ++ e.name

namespace Session

/-! ## Panels -/

def note (s : Session) (e : PanelEvent) : Session := { s with history := s.history ++ [e] }

/-- The panel is closed, as by its own button; the session keeps it. -/
def close (s : Session) : Session :=
  match s.panel with
  | some p =>
    if p.isOpen then
      let closed := { p with isOpen := false }
      { s with panel := some closed }.note (.hidden closed)
    else s
  | none => s

def hide (s : Session) : Session := { s.close with panel := none }

/-- A panel is put up in the place of the one before it. -/
def present (s : Session) (text : String) (severity : Severity) (isError : Bool := false) :
    Session :=
  let panel : Panel := { text, severity, isError }
  { s.hide with panel := some panel }.note (.shown panel)

/-! ## Arming -/

/-- The session waits for a pick. It answers whether it did not before; a dialect that is given is
kept. -/
def arm (s : Session) (dialect : Option Dialect) : Except UnknownDialect (Bool × Session) :=
  if s.armed then .ok (false, s)
  else
    match dialect with
    | none => .ok (true, { s with armed := true }.hide)
    | some d =>
      if Dialect.known.contains d then .ok (true, { s with armed := true, dialect := d }.hide)
      else .error ⟨d.name⟩

/-- The session no longer waits. It answers whether it did before. -/
def disarm (s : Session) : Bool × Session := (s.armed, { s with armed := false })

/-- The session waits if it did not before; it answers whether it waits now. -/
def toggle (s : Session) (dialect : Option Dialect) : Except UnknownDialect (Bool × Session) :=
  if s.armed then .ok (false, s.disarm.2)
  else (s.arm dialect).map fun (_, s) => (s.armed, s)

/-- The page goes elsewhere: nobody can pick on it any more. -/
def navigate (s : Session) : Session := s.disarm.2

end Session
end StableLocator
