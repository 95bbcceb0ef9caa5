import StableLocator.Page.Tree
import StableLocator.Text.Blank
import StableLocator.Text.Casing

/-!
# Spots

A spot is an element seen from within its page: the element and everything around it. The page
itself is the outermost spot, and an element that was taken out of its page has nothing around it.

* `Spot.parent?`, `Spot.enclosing`, `Spot.children`, `Spot.descendants`, `Spot.earlier` and
  `Spot.later` walk from a spot.
* `Spot.place` tells spots of one page apart.
* `Page.elements` lists the elements of a page in document order.
-/

namespace StableLocator

/-- What surrounds an element: the page's own limits, nothing, or a parent with the nodes to the
left (nearest first) and to the right, and what surrounds that parent. -/
inductive Context
  | document
  | detached
  | inside (tag : String) (attrs : Attributes) (left right : List Node) (outer : Context)
  deriving Repr

/-- An element and its surroundings. -/
structure Spot where
  tag : String
  attrs : Attributes
  nodes : List Node
  context : Context
  deriving Repr

def Context.place : Context → Place
  | .document => []
  | .detached => []
  | .inside _ _ left _ outer => outer.place ++ [left.length]

/-! ## Rows of spots -/

/-- The elements of a row inside a parent, given the nodes to the left of the row. -/
def rowSpots (tag : String) (attrs : Attributes) (outer : Context) (left : List Node) :
    List Node → List Spot
  | [] => []
  | .text kind content :: rest => rowSpots tag attrs outer (.text kind content :: left) rest
  | .element t a cs :: rest =>
    ⟨t, a, cs, .inside tag attrs left rest outer⟩ ::
      rowSpots tag attrs outer (.element t a cs :: left) rest

/-- The elements of a row inside a parent, nearest first, given the row from right to left and the
nodes to the right of it. -/
def rowSpotsBack (tag : String) (attrs : Attributes) (outer : Context) (right : List Node) :
    List Node → List Spot
  | [] => []
  | .text kind content :: rest => rowSpotsBack tag attrs outer (.text kind content :: right) rest
  | .element t a cs :: rest =>
    ⟨t, a, cs, .inside tag attrs rest right outer⟩ ::
      rowSpotsBack tag attrs outer (.element t a cs :: right) rest

mutual
/-- The element that a node is, followed by the elements below it. -/
def Node.spots (context : Context) : Node → List Spot
  | .text _ _ => []
  | .element tag attrs children =>
    ⟨tag, attrs, children, context⟩ :: rowTreeSpots tag attrs context [] children

/-- The elements of a row and below it, in document order. -/
def rowTreeSpots (tag : String) (attrs : Attributes) (outer : Context) (left : List Node) :
    List Node → List Spot
  | [] => []
  | node :: rest =>
    node.spots (.inside tag attrs left rest outer) ++
      rowTreeSpots tag attrs outer (node :: left) rest
end

namespace Spot

def node (s : Spot) : Node := .element s.tag s.attrs s.nodes

def name (s : Spot) : String := Text.lower s.tag

def isDocument (s : Spot) : Bool :=
  match s.context with
  | .document => true
  | _ => false

def place (s : Spot) : Place := s.context.place

/-- Two spots of one page are the same. -/
def same (s t : Spot) : Bool := s.place == t.place

def attr? (s : Spot) (name : String) : Option String := s.attrs.text? name

/-! ## Walking up -/

/-- The spot around this one; for an element at the top it is the page. -/
def parent? (s : Spot) : Option Spot :=
  match s.context with
  | .inside tag attrs left right outer =>
    some ⟨tag, attrs, left.reverseAux (s.node :: right), outer⟩
  | _ => none

/-- The spots around an element in the context, nearest first, with the page last. -/
def enclosingIn (inner : Node) : Context → List Spot
  | .inside tag attrs left right outer =>
    let parent : Spot := ⟨tag, attrs, left.reverseAux (inner :: right), outer⟩
    parent :: enclosingIn parent.node outer
  | _ => []

/-- The spots around this one, nearest first, with the page last. -/
def enclosing (s : Spot) : List Spot := enclosingIn s.node s.context

def parentElement? (s : Spot) : Option Spot := s.parent?.filter fun p => !p.isDocument

def ancestors (s : Spot) : List Spot := s.enclosing.filter fun p => !p.isDocument

/-- The outermost spot: the page, or the top of a tree that belongs to none. -/
def outermost (s : Spot) : Spot := s.enclosing.getLast?.getD s

def document? (s : Spot) : Option Spot :=
  if s.outermost.isDocument then some s.outermost else none

/-! ## Walking down and sideways -/

def children (s : Spot) : List Spot := rowSpots s.tag s.attrs s.context [] s.nodes

/-- The elements inside at any depth, in document order. -/
def descendants (s : Spot) : List Spot := rowTreeSpots s.tag s.attrs s.context [] s.nodes

/-- The elements before this one with the same parent, nearest first. -/
def earlier (s : Spot) : List Spot :=
  match s.context with
  | .inside tag attrs left right outer => rowSpotsBack tag attrs outer (s.node :: right) left
  | _ => []

/-- The elements after this one with the same parent, nearest first. -/
def later (s : Spot) : List Spot :=
  match s.context with
  | .inside tag attrs left right outer => rowSpots tag attrs outer (s.node :: left) right
  | _ => []

/-- The spot with nothing around it. -/
def detach (s : Spot) : Spot := { s with context := .detached }

/-! ## Text and classes -/

/-- All text below the element that counts as its own. -/
def allText (s : Spot) : String := rowText (ownKinds s.tag) s.nodes

def classTokens (s : Spot) : List String :=
  match s.attrs.lookup "class" with
  | none => []
  | some (.single text) => Text.splitWords text
  | some (.tokens ts) => ts

/-- Tag, id and at most three classes, for messages. -/
def describe (s : Spot) : String :=
  let tag := if s.name = "" then "?" else s.name
  let id := match s.attr? "id" with
    | some id => if id = "" then "" else "#" ++ id
    | none => ""
  let classes := s.classTokens.take 3
  tag ++ id ++ if classes.isEmpty then "" else "." ++ ".".intercalate classes

/-- The element encloses all others, as `body` and `html` do. -/
def isPageFrame (s : Spot) : Bool := s.name == "body" || s.name == "html"

end Spot

/-! ## Pages -/

structure Page where
  nodes : List Node
  url : String := ""
  title : String := ""
  deriving Repr

namespace Page

def root (page : Page) : Spot := ⟨"[document]", [], page.nodes, .document⟩

/-- The elements of a page in document order. -/
def elements (page : Page) : List Spot := page.root.descendants

def find? (page : Page) (place : Place) : Option Spot :=
  page.elements.find? fun s => s.place == place

def first? (page : Page) : Option Spot := page.elements.head?

def body? (page : Page) : Option Spot := page.elements.find? fun s => s.tag == "body"

/-- The page with attributes changed by a rule that sees each element's place. -/
def mapAttrs (rule : Place → Attributes → Attributes) (page : Page) : Page :=
  { page with nodes := mapAttrsFrom rule [] 0 page.nodes }

end Page
end StableLocator
