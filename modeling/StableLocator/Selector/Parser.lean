import StableLocator.Selector.Survey
import StableLocator.Selector.Token

/-!
# Reading selectors

`Formula.read?` turns the tokens of a selector into a formula. The reader keeps a stack of groups:
the selector itself and, inside it, the functions whose bracket is open. A group collects
alternatives, of which a comma ends one and begins the next. A selector of more than `sizeLimit`
tests is refused.

Some states and functions are outside: those that ask for the text of an element (`:contains()`,
`:-soup-contains()`, `:-soup-contains-own()`, `:placeholder-shown`), for its language or direction
(`:lang()`, `:dir()`), for the form around it (`:default`, `:indeterminate`), for a range of values
(`:in-range`, `:out-of-range`) and for custom elements (`:defined`). A selector with one of them is
read here as malformed, so nothing that is said of selectors is meant for these.
-/

namespace StableLocator
namespace Selector

inductive Purpose
  /-- One of the alternatives holds; an empty one is forgiven or not. -/
  | anyOf (forgiving : Bool)
  | noneOf
  /-- Something along an axis has the property. -/
  | relative
  /-- The element has its place among the siblings with the property. -/
  | counting (fromEnd : Bool) (places : Progression)
  deriving DecidableEq, Repr

/-- Tests of one element are made kind by kind. -/
def Formula.rank : Formula → Nat
  | .never | .type _ => 0
  | .root => 1
  | .scope => 2
  | .nth _ _ _ _ => 3
  | .empty => 4
  | .id _ => 5
  | .token _ => 6
  | .attribute _ => 7
  | .both f _ => f.rank
  | _ => 8

/-- A test put behind those that are made before it. -/
def Formula.insertInto (f : Formula) (tests : List Formula) : List Formula :=
  tests.takeWhile (fun t => t.rank ≤ f.rank) ++ f :: tests.dropWhile (fun t => t.rank ≤ f.rank)

/-- A group in the making. Of the current alternative it holds what was said of elements to the
left, the steps taken so far if the group is relative, and the tests since the last combinator. -/
structure Group where
  purpose : Purpose
  /-- The finished alternatives, last first. -/
  done : List Formula := []
  /-- What the combinators so far ask of elements to the left. -/
  left : Formula := .always
  /-- A combinator has been read in this alternative. -/
  joined : Bool := false
  /-- The steps of a relative alternative, last first. -/
  steps : List (Axis × Formula) := []
  /-- The axis of the next step of a relative alternative. -/
  axis : Axis := .descendant
  /-- The tests since the last combinator, in the order in which they are made. -/
  tests : List Formula := []
  deriving DecidableEq, Repr

namespace Group

def forgives (g : Group) : Bool := g.purpose == .anyOf true

/-- There is a test since the last combinator. -/
def started (g : Group) : Bool := !g.tests.isEmpty

def test (g : Group) (f : Formula) : Group := { g with tests := f.insertInto g.tests }

def tested (g : Group) : Formula := Formula.all g.tests

/-- The group at the start of an alternative, after those that are done. -/
def nextAlternative (g : Group) (finished : Formula) : Group :=
  { purpose := g.purpose, done := finished :: g.done }

/-- The property that relative steps spell out: along each axis there is an element with the tests
of the step and with the property of the steps after it. -/
def stepsFormula (steps : List (Axis × Formula)) : Formula :=
  steps.reverse.foldr (fun (axis, f) rest => .look axis (.both f rest)) .always

def alternative (g : Group) : Formula :=
  if g.purpose = .relative then stepsFormula ((g.axis, g.tested) :: g.steps)
  else .both g.tested g.left

def backAxis : Combinator → Axis
  | .child => .parent
  | .next => .previous
  | .later => .earlier
  | _ => .ancestor

def forwardAxis : Combinator → Axis
  | .child => .child
  | .next => .next
  | .later => .later
  | _ => .descendant

/-- The group after a combinator; none where a combinator has no place. -/
def combine? (g : Group) (c : Combinator) : Option Group :=
  if g.started then
    if c = .comma then some (g.nextAlternative g.alternative)
    else if g.purpose = .relative then
      some { g with
        steps := (g.axis, g.tested) :: g.steps
        axis := forwardAxis c
        tests := [] }
    else
      some { g with
        left := .look (backAxis c) g.alternative
        joined := true
        tests := [] }
  else if c = .comma then
    -- An alternative without an end leaves nothing behind.
    if g.forgives then some { purpose := g.purpose, done := g.done } else none
  else if g.purpose = .relative ∧ g.axis = .descendant then some { g with axis := forwardAxis c }
  else none

def result (g : Group) (alternatives : List Formula) : Formula :=
  let any := Formula.any alternatives
  match g.purpose with
  | .noneOf => .negate any
  | .counting fromEnd places => .nth fromEnd false places any
  | _ => any

/-- What the group says at its end; none if its last alternative has no end. A forgiving group lets
an alternative without an end go if it is empty, or if no other one is done: `:is(, b >)` and
`:is(b >, p >)` can be read and hold of nothing, `:is(b, p >)` cannot be read. -/
def finish? (g : Group) : Option Formula :=
  if g.started then some (g.result (g.alternative :: g.done).reverse)
  else if g.forgives && (g.done.isEmpty || !g.joined) then
    some (g.result (.never :: g.done).reverse)
  else none

end Group

/-- The first of the siblings from either end. -/
def outermost (fromEnd ofType : Bool) : Formula := .nth fromEnd ofType (.only 1) .always

/-- States that an element can be seen to have. -/
def stateFormula? : String → Option Formula
  | "root" => some .root
  | "scope" => some .scope
  | "empty" => some .empty
  | "checked" => some .checked
  | "disabled" => some .disabled
  | "enabled" => some .enabled
  | "read-write" => some .editable
  | "read-only" => some (.negate .editable)
  | "first-child" => some (outermost false false)
  | "last-child" => some (outermost true false)
  | "only-child" => some (.both (outermost false false) (outermost true false))
  | "first-of-type" => some (outermost false true)
  | "last-of-type" => some (outermost true true)
  | "only-of-type" => some (.both (outermost false true) (outermost true true))
  | "link" | "any-link" => some (.both (.any [.type "a", .type "area"]) (.hasAttr "href"))
  | "required" =>
    some (.both (.any [.type "input", .type "select", .type "textarea"]) (.hasAttr "required"))
  | "optional" =>
    some (.both (.any [.type "input", .type "select", .type "textarea"])
      (.negate (.hasAttr "required")))
  | "active" | "current" | "focus" | "focus-visible" | "focus-within" | "future" | "host"
  | "hover" | "local-link" | "past" | "paused" | "playing" | "target" | "target-within"
  | "user-invalid" | "visited" => some .never
  | _ => none

def functionPurpose? : String → Option Purpose
  | "is" | "where" => some (.anyOf true)
  | "matches" => some (.anyOf false)
  | "not" => some .noneOf
  | "has" => some .relative
  | _ => none

/-- The open groups, innermost first. -/
abbrev Groups := List Group

def testInner : Groups → Formula → Option Groups
  | [], _ => none
  | g :: outer, f => some (g.test f :: outer)

/-- A test that no element passes, made when those of another kind are. -/
def failing (kind : Formula) : Formula := .both kind .never

/-- The test for a spelling; what no page can hold fails. -/
def spelled (test : String → Formula) : Spelling → Formula
  | .text s => test s
  | .unheld => failing (test "")

def attributeFormula (test : Option AttrTest) : Formula :=
  match test with
  | some t => .attribute t
  | none => failing (.hasAttr "")

/-- The groups after one more token; none where the token has no place. -/
def stepGroups (groups : Groups) (token : Token) : Option Groups :=
  match groups with
  | [] => none
  | g :: outer =>
    match token with
    | .type name => if g.started then none else testInner groups (.type name)
    | .foreignType => if g.started then none else testInner groups .never
    | .id value => testInner groups (spelled .id value)
    | .token name => testInner groups (spelled .token name)
    | .attribute t negated =>
      let f := attributeFormula t
      testInner groups (if negated then .negate f else f)
    | .scope => testInner groups .scope
    | .state name => stateFormula? name >>= testInner groups
    | .nth fromEnd ofType places => testInner groups (.nth fromEnd ofType places .always)
    | .openFunction name => (functionPurpose? name).map fun p => { purpose := p } :: groups
    | .openNth fromEnd places => some ({ purpose := .counting fromEnd places } :: groups)
    | .close => if outer.isEmpty then none else g.finish? >>= testInner outer
    | .combinator c => (g.combine? c).map (· :: outer)

def formulaOf? (tokens : List Token) : Option Formula :=
  match tokens.foldlM stepGroups [{ purpose := .anyOf false }] with
  | some [g] => g.finish?
  | _ => none

/-! ## Size -/

def sizeLimit : Nat := 8192

/-- The number of tests that a state is made of, besides the state itself. -/
def stateParts : String → Nat
  | "disabled" => 42
  | "enabled" => 56
  | "read-write" => 69
  | "read-only" => 72
  | "checked" => 9
  | "link" | "any-link" => 5
  | "required" => 6
  | "optional" => 7
  | "only-child" | "only-of-type" => 1
  | _ => 0

/-- The number of tests that a token brings. A function is one, besides what its brackets hold;
counting among all siblings is one more, for the siblings. -/
def Token.size : Token → Nat
  | .type _ | .foreignType | .id _ | .token _ | .scope | .openFunction _ | .openNth _ _ => 1
  | .attribute _ negated => if negated then 2 else 1
  | .state name => 1 + stateParts name
  | .nth _ ofType _ => if ofType then 1 else 2
  | .close | .combinator _ => 0

/-- An alternative may be empty after this token. -/
def Token.beginsAlternative : Token → Bool
  | .openFunction _ | .openNth _ _ | .combinator .comma => true
  | _ => false

def Token.endsAlternative : Token → Bool
  | .close | .combinator .comma => true
  | _ => false

/-- The number of tests in a selector; an empty alternative counts as one. -/
def size : List Token → Nat
  | [] => 0
  | [t] => t.size
  | t :: u :: rest =>
    t.size + (if t.beginsAlternative && u.endsAlternative then 1 else 0) + size (u :: rest)

/-- The formula of a selector; none for one that is malformed or too large. -/
def Formula.read? (selector : String) : Option Formula := do
  let tokens ← Token.readAll? selector
  if sizeLimit < size tokens then none else formulaOf? tokens

end Selector

/-- The elements below a spot that a selector selects, in document order; none for a selector that
cannot be read, and where a count is beyond reach. -/
def Spot.select? (s : Spot) (selector : String) : Option (List Spot) :=
  Selector.Formula.read? selector >>= s.matching?

end StableLocator
