import StableLocator.Page.Spot
import StableLocator.Selector.Progression

/-!
# Selectors as formulas

A selector is a formula over the tree: tests of one element, joined by conjunction, disjunction and
negation, and steps that look along an axis for an element with a property. The selector `ul > li`
is the formula of an `li` whose parent is a `ul`.

* `Formula.holds` evaluates a formula at a spot, as seen from a vantage point.
* `Spot.matching` lists the elements below a spot at which a formula holds.
-/

namespace StableLocator
namespace Selector

/-- How an attribute's value compares with the value in the selector. -/
inductive Comparison
  | present
  | equals
  | hasWord
  | dashed
  | startsWith
  | endsWith
  | contains
  deriving DecidableEq, Repr

structure AttrTest where
  name : String
  comparison : Comparison
  value : String
  ignoreCase : Bool
  deriving DecidableEq, Repr

inductive Axis
  | parent
  | ancestor
  /-- Ancestors nearer than the nearest `iframe`. -/
  | frameAncestor
  | previous
  | earlier
  | child
  | descendant
  | next
  | later
  deriving DecidableEq, Repr

/-- A property of elements. -/
inductive Formula
  | always
  | never
  /-- The tag has this name; `*` is the name of every tag. -/
  | type (name : String)
  | id (value : String)
  | token (name : String)
  | attribute (test : AttrTest)
  /-- Counted among the siblings with a property, from either end, of all types or one's own, the
  element has a place on the progression. -/
  | nth (fromEnd ofType : Bool) (places : Progression) (among : Formula)
  | root
  | scope
  | empty
  | both (f g : Formula)
  | either (f g : Formula)
  | negate (f : Formula)
  | look (axis : Axis) (f : Formula)
  deriving DecidableEq, Repr

/-! ## Attributes -/

/-- The first attribute whose name is the given one up to ASCII case. -/
def attrNamed? (attrs : Attributes) (name : String) : Option AttrValue :=
  (attrs.find? fun attr => Text.lowerAscii attr.1 == Text.lowerAscii name).map (·.2)

/-- A list begins with another, where characters compare by `eq`. -/
def beginsWith (eq : Char → Char → Bool) : List Char → List Char → Bool
  | [], _ => true
  | _ :: _, [] => false
  | p :: ps, c :: cs => eq p c && beginsWith eq ps cs

/-- Two lists agree, where characters compare by `eq`. -/
def agrees (eq : Char → Char → Bool) (ps cs : List Char) : Bool :=
  ps.length == cs.length && beginsWith eq ps cs

/-- A list holds another as a run, where characters compare by `eq`. -/
def holdsRun (eq : Char → Char → Bool) (ps : List Char) : List Char → Bool
  | [] => ps.isEmpty
  | c :: cs => beginsWith eq ps (c :: cs) || holdsRun eq ps cs

/-- The list itself, and without a line feed at its end. -/
def lineForms (cs : List Char) : List (List Char) :=
  if cs.getLast? = some '\n' then [cs, cs.dropLast] else [cs]

/-- The pieces between markup blanks. -/
def blankPieces : List Char → List (List Char)
  | [] => [[]]
  | c :: rest =>
    if Text.isMarkupBlank c then [] :: blankPieces rest
    else Text.joinFirst c (blankPieces rest)

/-- A comparison of an attribute's value with the selector's. A line feed at the end of the value
does not count where the end matters, and no value has an empty part. -/
def compare (eq : Char → Char → Bool) (value actual : List Char) : Comparison → Bool
  | .present => true
  | .equals => (lineForms actual).any (agrees eq value)
  | .hasWord =>
    !value.isEmpty && !value.any Text.isMarkupBlank && (blankPieces actual).any (agrees eq value)
  | .dashed =>
    (lineForms actual).any (agrees eq value) || beginsWith eq (value ++ ['-']) actual
  | .startsWith => !value.isEmpty && beginsWith eq value actual
  | .endsWith =>
    !value.isEmpty &&
      (lineForms actual).any fun form => beginsWith eq value.reverse form.reverse
  | .contains => !value.isEmpty && holdsRun eq value actual

def AttrTest.passes (test : AttrTest) (attrs : Attributes) : Bool :=
  match attrNamed? attrs test.name with
  | none => false
  | some actual =>
    let eq := if test.ignoreCase then Text.alike else fun a b => a == b
    compare eq test.value.toList actual.text.toList test.comparison

def classTokens (attrs : Attributes) : List String :=
  match attrNamed? attrs "class" with
  | none => []
  | some (.tokens ts) => ts
  | some (.single s) =>
    (blankPieces s.toList).filterMap fun p => if p.isEmpty then none else some (String.ofList p)

/-! ## Evaluation -/

/-- The spots on an axis, nearest first. The page itself is the parent of the elements at its top
and an ancestor of all. -/
def Axis.spots (s : Spot) : Axis → List Spot
  | .parent => s.parent?.toList
  | .ancestor => s.enclosing
  | .frameAncestor => s.enclosing.takeWhile fun t => t.name != "iframe"
  | .previous => s.earlier.head?.toList
  | .earlier => s.earlier
  | .child => s.children
  | .descendant => s.descendants
  | .next => s.later.head?.toList
  | .later => s.later

/-- From where a formula is evaluated: the root of the tree and the scope of the search. -/
structure Vantage where
  root : Option Place
  scope : Option Place
  deriving DecidableEq, Repr

/-- The vantage point of a search below a spot. A search of the whole page has the root as its
scope. -/
def Vantage.of (s : Spot) : Vantage :=
  let top := s.outermost
  let root := if top.isDocument then top.children.head?.map Spot.place else some top.place
  ⟨root, if s.isDocument then root else some s.place⟩

/-- Text that counts as content: not a comment, a declaration or character data. -/
def isContent : TextKind → Bool
  | .comment | .declaration | .cdata | .instruction | .doctype => false
  | _ => true

/-- A node without an element and without text beside blanks leaves its parent empty. -/
def leavesEmpty : Node → Bool
  | .text kind content => !(isContent kind && content.toList.any fun c => !Text.isMarkupBlank c)
  | .element _ _ _ => false

/-- A node beside the root that takes the root's rank away. -/
def disputesRoot : Node → Bool
  | .text kind content => kind == .cdata || (isContent kind && Text.trim content != "")
  | .element _ _ _ => true

def besides (s : Spot) : List Node :=
  match s.context with
  | .inside _ _ left right _ => left ++ right
  | _ => []

/-- The spot is the outermost element that it is in, or directly inside an `iframe`. -/
def Vantage.isTop (v : Vantage) (s : Spot) : Bool :=
  v.root == some s.place || s.parent?.any fun t => t.name == "iframe"

/-- The siblings that come before a spot when counting from either end, of all types or its own. -/
def counted (fromEnd ofType : Bool) (s : Spot) : List Spot :=
  (if fromEnd then s.later else s.earlier).filter fun t => !ofType || t.name == s.name

/-- A formula holds at a spot. -/
def Formula.holds (v : Vantage) : Formula → Spot → Bool
  | .always, _ => true
  | .never, _ => false
  | .type name, s => name == "*" || Text.lowerAscii name == s.name
  | .id value, s => (attrNamed? s.attrs "id").any fun actual => actual.text == value
  | .token name, s => (classTokens s.attrs).contains name
  | .attribute test, s => test.passes s.attrs
  | .nth fromEnd ofType places among, s =>
    among.holds v s &&
      places.contains (((counted fromEnd ofType s).filter fun t => among.holds v t).length + 1)
  | .root, s => v.isTop s && !s.isDocument && !(besides s).any disputesRoot
  | .scope, s => v.scope == some s.place && !s.isDocument
  | .empty, s => s.nodes.all leavesEmpty
  | .both f g, s => f.holds v s && g.holds v s
  | .either f g, s => f.holds v s || g.holds v s
  | .negate f, s => !f.holds v s
  | .look axis f, s => (axis.spots s).any fun t => f.holds v t

/-! ## Formulas for states of controls -/

def Formula.all (fs : List Formula) : Formula := fs.foldr .both .always

def Formula.any (fs : List Formula) : Formula := fs.foldr .either .never

def Formula.hasAttr (name : String) : Formula := .attribute ⟨name, .present, "", false⟩

def Formula.hasType (type : String) : Formula := .attribute ⟨"type", .equals, type, true⟩

def Formula.checked : Formula :=
  .any
    [.all [.type "input", .any [.hasType "checkbox", .hasType "radio"], .hasAttr "checked"],
     .all [.type "option", .hasAttr "selected"]]

def Formula.groupedControl : Formula :=
  .any
    [.all [.type "input", .negate (.hasType "hidden")], .type "button", .type "select",
     .type "textarea", .type "fieldset"]

def Formula.disabledGroup : Formula := .all [.type "fieldset", .hasAttr "disabled"]

/-- A control that is disabled by itself or by a group around it; the first legend of a group is
exempt. -/
def Formula.disabled : Formula :=
  let legend := Formula.all [.type "legend", .nth false true (.only 1) .always]
  .any
    [.all [.any [.groupedControl, .type "optgroup", .type "option"], .hasAttr "disabled"],
     .all [.type "option", .look .parent (.all [.type "optgroup", .hasAttr "disabled"])],
     .all [.groupedControl, .look .parent .disabledGroup],
     .all [.groupedControl,
       .look .frameAncestor (.all [.negate legend, .look .parent .disabledGroup])]]

def Formula.enabled : Formula :=
  .all [.any [.groupedControl, .type "optgroup", .type "option"], .negate .disabled]

/-- The types of inputs whose text can be changed. -/
def textTypes : List String :=
  ["", "date", "datetime-local", "email", "month", "number", "password", "search", "tel", "text",
   "time", "url", "week"]

/-- A control whose text can be changed, or an element whose content can. -/
def Formula.editable : Formula :=
  let input := Formula.any (.negate (.hasAttr "type") :: textTypes.map .hasType)
  .any
    [.all [.any [.type "textarea", .all [.type "input", input]],
       .negate (.any [.hasAttr "readonly", .disabled])],
     .attribute ⟨"contenteditable", .equals, "", false⟩,
     .attribute ⟨"contenteditable", .equals, "true", true⟩]

end Selector

/-- The elements below a spot at which a formula holds, in document order. -/
def Spot.matching (s : Spot) (f : Selector.Formula) : List Spot :=
  s.descendants.filter (f.holds (Selector.Vantage.of s))

end StableLocator
