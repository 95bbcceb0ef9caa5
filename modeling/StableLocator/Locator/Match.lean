import StableLocator.Locator.Query
import StableLocator.Naming.Name
import StableLocator.Selector.Parser

/-!
# What a query finds

* `Query.accepts` is the property of single elements that a query asks for.
* `Query.matchesIn` lists the visible elements below a spot with that property, in document order.
  A query by path asks a selector instead.
* `Locator.matches` follows a chain; an element that is reached twice counts once.
* `Verdict` judges what was found by the element that was wanted.
-/

namespace StableLocator

def testIdNames : List String :=
  ["data-testid", "data-test-id", "data-test", "data-qa", "data-cy", "data-e2e"]

namespace Query

/-! ## Single elements -/

/-- A text is the wanted one, or has it in it if the query is not exact. -/
def agrees (q : Query) (wanted actual : String) : Bool :=
  if q.exact then actual == wanted else Text.occurs wanted actual

/-- The comparison of a text with the wanted one, or the fault that strikes there. -/
def compares (q : Query) (lens : Lens) (wanted actual : String) : Except String Bool :=
  lens.faults.guard .comparison (q.agrees wanted actual)

def acceptsTestId (q : Query) (s : Spot) : Bool := testIdNames.any fun n => s.attrText n == q.value

def acceptsRole (q : Query) (lens : Lens) (s : Spot) : Except String Bool :=
  if s.role = some q.value then
    match q.name? with
    | some name => q.compares lens name (lens.name s)
    | none => .ok true
  else .ok false

def acceptsAttribute (q : Query) (lens : Lens) (name : String) (s : Spot) : Except String Bool :=
  match s.attr? name with
  | some value => q.compares lens q.value (Text.collapse value)
  | none => .ok false

/-- A query accepts an element; a query by path leaves that to its selector. -/
def accepts (q : Query) (lens : Lens) (s : Spot) : Except String Bool :=
  match q.strategy with
  | .testId => .ok (q.acceptsTestId s)
  | .roleName | .role => q.acceptsRole lens s
  | .label => q.compares lens q.value (lens.label s)
  | .text => q.compares lens q.value (lens.name s)
  | .placeholder => q.acceptsAttribute lens "placeholder" s
  | .altText => q.acceptsAttribute lens "alt" s
  | .title => q.acceptsAttribute lens "title" s
  | .path => .ok false

/-- The element is visible, and the query accepts it without a fault. -/
def finds (q : Query) (lens : Lens) (s : Spot) : Bool :=
  s.isVisible && (q.accepts lens s).toOption.getD false

/-! ## All elements below a spot -/

/-- The visible elements below a spot that a selector selects; none for a malformed selector. -/
def selected (selector : String) (root : Spot) : List Spot :=
  ((root.select? selector).getD []).filter Spot.isVisible

/-- The elements below a spot that a query finds. -/
def matchesIn (q : Query) (lens : Lens) (root : Spot) : List Spot :=
  if q.strategy = .path then selected q.value root else root.descendants.filter (q.finds lens)

/-- The elements that a query finds in its scope. -/
def found (q : Query) (lens : Lens) (page : Page) : List Spot :=
  match q.scope with
  | .page => q.matchesIn lens page.root
  | .within place => ((page.find? place).map (q.matchesIn lens)).getD []

end Query

/-! ## Chains -/

def distinct (spots : List Spot) : List Spot :=
  spots.foldl (fun kept s => if kept.any s.same then kept else kept ++ [s]) []

/-- The elements that a chain of queries finds, each query searching below what the one before it
found. -/
def follow (lens : Lens) : List Spot → List Query → List Spot
  | spots, [] => spots
  | spots, q :: rest => follow lens (distinct (spots.flatMap (q.matchesIn lens))) rest

/-- The elements that a chain of queries finds in a page; a chain without queries finds none. -/
def chainMatches (queries : List Query) (lens : Lens) (page : Page) : List Spot :=
  if queries.isEmpty then [] else follow lens [page.root] queries

/-! ## Verdicts -/

/-- What the matches of a query mean for the element that was wanted. -/
inductive Verdict
  | unique
  | nothing
  | elsewhere
  | several
  deriving DecidableEq, Repr

namespace Verdict

def of (found : List Spot) (target : Spot) : Verdict :=
  if found.isEmpty then .nothing
  else if found.all fun s => !s.same target then .elsewhere
  else if found.length = 1 then .unique
  else .several

def message : Verdict → String
  | .unique => "Locator is unique."
  | .nothing => "Locator matches nothing."
  | .elsewhere => "Locator does not match the target element."
  | .several => "Locator is not unique in scope."

end Verdict

def isOnly (found : List Spot) (target : Spot) : Bool := Verdict.of found target == .unique

end StableLocator
