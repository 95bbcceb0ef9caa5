import StableLocator.Locator.Resolve
import StableLocator.Session.Marks

/-!
# Desks

A desk is a session with the pages that it works on. Picks are answered and texts are verified on
one of the pages. Faults may strike meanwhile: those of the desk at any time, others during one
action only, where they come first.

* `Desk.pick` consumes one pick.
* `Desk.verify` resolves a text and marks what it finds.
* `Desk.act` is one action of a user, `Desk.run` a whole course of them.
-/

namespace StableLocator

structure Desk where
  session : Session := {}
  pages : Pages := []
  faults : Faults := []

namespace Desk

/-! ## Picks -/

/-- What the panel says when no locator could be looked for. -/
def failureText (message : String) : String := "An error occurred: " ++ message

def answered (s : Session) (answer : Except String Finding) : Session :=
  let s := { s with armed := false }
  match answer with
  | .ok f => s.present (annotate (f.locator.render s.dialect) f.severity s.dialect) f.severity
  | .error message => @Session.present s (failureText message) .critical true

/-- The locator for the element at a mark, by the settings of the session. -/
def answer (d : Desk) (m : Mark) (faults : Faults) : Except String Finding :=
  let faults := faults ++ d.faults
  let page := Pages.page d.pages m.page
  let settings := d.session.settings
  let spot := (page.find? m.place).getD page.root
  faults.guard .synthesis
    (Target.of page spot settings.textLimit settings.ancestorDepth faults).find

/-- An element was picked. Only a session that waits for a pick answers it, and does not wait any
longer. -/
def pick (d : Desk) (m : Mark) (faults : Faults := []) : Option Finding × Desk :=
  if d.session.armed then
    let answer := d.answer m faults
    (answer.toOption, { d with session := answered d.session answer })
  else (none, d)

/-! ## Verification -/

/-- A text is resolved on a page, after old marks are cleared, and what it finds is marked. -/
def verify (d : Desk) (text : String) (number : Nat) (faults : Faults := []) :
    Resolution × Desk :=
  let name := d.session.settings.marker
  let pages := (Pages.clear name d.session.marked number d.pages).2
  let limit := d.session.settings.textLimit
  match resolve? text (Pages.page pages number) limit (faults ++ d.faults) with
  | .error message =>
    (⟨.failed message, []⟩, { d with session := { d.session with marked := [] }, pages })
  | .ok r =>
    let places := r.spots.map Spot.place
    (r,
      { d with
        session := { d.session with marked := places.map fun place => ⟨number, place⟩ }
        pages := Pages.mark name places number pages })

/-- All marks are cleared from the pages; the session goes on to list them. -/
def clearMarks (d : Desk) (number : Nat) : Nat × Desk :=
  let (count, pages) := Pages.clear d.session.settings.marker d.session.marked number d.pages
  (count, { d with pages })

/-- The desk with one more page, and the number of that page. -/
def take (d : Desk) (page : Page) : Nat × Desk :=
  (d.pages.length, { d with pages := d.pages ++ [page] })

/-! ## Courses of actions -/

inductive Action
  | arm (dialect : Option Dialect)
  | disarm
  | toggle (dialect : Option Dialect)
  | navigate
  | pick (m : Mark) (faults : Faults)
  | verify (text : String) (page : Nat) (faults : Faults)
  | present (text : String) (severity : Severity) (isError : Bool)
  | hide
  | close

inductive Reply
  | nothing
  | flag (b : Bool)
  | finding (f : Option Finding)
  | resolution (r : Resolution)
  | refused (e : UnknownDialect)

/-- The desk after a switch that may be refused. -/
def switch (d : Desk) (outcome : Except UnknownDialect (Bool × Session)) : Reply × Desk :=
  match outcome with
  | .ok (b, s) => (.flag b, { d with session := s })
  | .error e => (.refused e, d)

def act (d : Desk) : Action → Reply × Desk
  | .arm dialect => d.switch (d.session.arm dialect)
  | .disarm => let (b, s) := d.session.disarm; (.flag b, { d with session := s })
  | .toggle dialect => d.switch (d.session.toggle dialect)
  | .navigate => (.nothing, { d with session := d.session.navigate })
  | .pick m faults => let (f, d) := d.pick m faults; (.finding f, d)
  | .verify text page faults => let (r, d) := d.verify text page faults; (.resolution r, d)
  | .present text severity isError =>
    (.nothing, { d with session := d.session.present text severity isError })
  | .hide => (.nothing, { d with session := d.session.hide })
  | .close => (.nothing, { d with session := d.session.close })

/-- The desk after a course of actions. -/
def run (d : Desk) (actions : List Action) : Desk := actions.foldl (fun d a => (d.act a).2) d

end Desk
end StableLocator
