import StableLocator.Browser.Report

/-!
# Pages that play a script

A stage is a page in a browser as far as picking can tell: what its scripts answer, which of them
fail, which single calls of them go otherwise, and what happens on it while one waits. Everything that
is asked of the browser or the page is a `Call`.
-/

namespace StableLocator

inductive Script
  | snapshot
  | inject
  | installed
  | setArmed
  | showPanel
  | hidePanel
  | mark
  | remove
  deriving DecidableEq, Repr

def Script.name : Script → String
  | .snapshot => "snapshot"
  | .inject => "inject"
  | .installed => "installed"
  | .setArmed => "set_armed"
  | .showPanel => "show_panel"
  | .hidePanel => "hide_panel"
  | .mark => "mark"
  | .remove => "remove"

inductive Call
  | startEngine
  | launchBrowser (headless : Bool)
  | openPage
  | exposeBinding (name : String)
  | addScript
  | listen (event : String)
  | evaluate (script : Script) (argument : Json)
  | goTo (url : String)
  | wait (milliseconds : Int)
  | closeBrowser
  | stopEngine
  deriving Repr

inductive PageEvent
  | report (r : Report)
  | close
  | navigated (mainFrame : Bool)
  | pageClosed
  deriving Repr

structure Stage where
  /-- What the snapshot script answers. -/
  snapshot : Json
  /-- What the check for the page's own script answers. -/
  installed : Json := .bool true
  /-- What the marking script answers; if nothing is given, the number of indices. -/
  marked : Option Json := none
  /-- The scripts that fail. -/
  failing : List Script := []
  /-- Scripts that answer or fail in their own way when this many calls were made before. -/
  exceptions : List (Nat × Except String Json) := []
  closed : Bool := false
  /-- Asking whether the page is closed fails with this message. -/
  closedError : Option String := none
  /-- What happens during each wait. -/
  waits : List (List PageEvent) := []
  /-- A wait fails with this message when nothing more is to happen. -/
  waitError : String := "Target closed"
  /-- Going to an address fails with this message. -/
  goToError : Option String := none
  deriving Repr

namespace Stage

/-- The number of indices in the argument of the marking script. -/
def indexCount (argument : Json) : Json :=
  match argument.getD "indices" with
  | .arr indices => .int indices.length
  | _ => .int 0

def answer (s : Stage) (argument : Json) : Script → Json
  | .snapshot => s.snapshot
  | .installed => s.installed
  | .mark => s.marked.getD (indexCount argument)
  | _ => .null

/-- A script runs on the page after a number of other calls. -/
def evaluate (s : Stage) (past : Nat) (script : Script) (argument : Json) : Except String Json :=
  match s.exceptions.lookup past with
  | some outcome => outcome
  | none =>
    if s.failing.contains script then .error (script.name ++ " failed")
    else .ok (s.answer argument script)

def isClosed (s : Stage) : Except String Bool :=
  match s.closedError with
  | some message => .error message
  | none => .ok s.closed

end Stage
end StableLocator
