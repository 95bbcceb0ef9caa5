/-!
# Page trees

* `Node` is a piece of text of some kind, or an element with attributes and children.
* `Attributes` is a list of names with values; a value is one text or a list of tokens.
* `forest_induction` is the induction principle for rows of nodes.
-/

namespace StableLocator

/-- What a piece of text is: running text, a note to the reader of the source, or text that belongs
to an element which does not show it as running text. -/
inductive TextKind
  | plain
  | comment
  | cdata
  | doctype
  | declaration
  | instruction
  | script
  | style
  | template
  | rubyText
  | rubyParenthesis
  deriving DecidableEq, Repr

/-- The kind of the text inside an element with a kind of its own. -/
def TextKind.ofTag? : String → Option TextKind
  | "script" => some .script
  | "style" => some .style
  | "template" => some .template
  | "rt" => some .rubyText
  | "rp" => some .rubyParenthesis
  | _ => none

inductive AttrValue
  | single (s : String)
  | tokens (ts : List String)
  deriving DecidableEq, Repr

/-- A value as one text; tokens are joined by single spaces. -/
def AttrValue.text : AttrValue → String
  | .single s => s
  | .tokens ts => " ".intercalate ts

abbrev Attributes := List (String × AttrValue)

namespace Attributes

/-- The text of the attribute with this very name. -/
def text? (name : String) (attrs : Attributes) : Option String :=
  (attrs.lookup name).map AttrValue.text

def has (name : String) (attrs : Attributes) : Bool := (attrs.lookup name).isSome

/-- An attribute written in its place, or at the end. -/
def put (name : String) (value : AttrValue) : Attributes → Attributes
  | [] => [(name, value)]
  | (n, v) :: rest => if n = name then (n, value) :: rest else (n, v) :: put name value rest

def erase (name : String) (attrs : Attributes) : Attributes :=
  attrs.filter fun attr => attr.1 != name

end Attributes

/-- A node of a page. -/
inductive Node
  | text (kind : TextKind) (content : String)
  | element (tag : String) (attrs : Attributes) (children : List Node)
  deriving Repr

/-- Induction over rows of nodes: an element at the front brings the hypothesis for its children
besides the one for the rest of the row. -/
theorem forest_induction {motive : List Node → Prop} (nil : motive [])
    (text : ∀ kind content rest, motive rest → motive (.text kind content :: rest))
    (element : ∀ tag attrs children rest, motive children → motive rest →
      motive (.element tag attrs children :: rest)) :
    ∀ nodes, motive nodes := by
  intro nodes
  refine @Node.rec_1 (fun node => ∀ rest, motive rest → motive (node :: rest)) motive
    ?_ ?_ ?_ ?_ nodes
  · intro kind content rest h
    exact text kind content rest h
  · intro tag attrs children hc rest h
    exact element tag attrs children rest hc h
  · exact nil
  · intro head tail hHead hTail
    exact hHead tail hTail

/-! ## All text below a row -/

mutual
/-- The text of the given kinds in a node, in document order. -/
def Node.allText (kinds : List TextKind) : Node → String
  | .text kind content => if kinds.contains kind then content else ""
  | .element _ _ children => rowText kinds children

/-- The text of the given kinds in a row of nodes, in document order. -/
def rowText (kinds : List TextKind) : List Node → String
  | [] => ""
  | node :: rest => node.allText kinds ++ rowText kinds rest
end

/-- The kinds of text that count as the text of an element: its own kind, if it has one, else
running text and character data. -/
def ownKinds (tag : String) : List TextKind :=
  match TextKind.ofTag? tag with
  | some kind => [kind]
  | none => [.plain, .cdata]

/-! ## Changing attributes -/

/-- The way to a node: at each level the number of nodes before it. -/
abbrev Place := List Nat

mutual
/-- The node with attributes changed in every element, by a rule that sees the element's place. -/
def Node.mapAttrs (rule : Place → Attributes → Attributes) (place : Place) : Node → Node
  | .text kind content => .text kind content
  | .element tag attrs children =>
    .element tag (rule place attrs) (mapAttrsFrom rule place 0 children)

/-- A row of nodes with attributes changed; `start` nodes stand before the row. -/
def mapAttrsFrom (rule : Place → Attributes → Attributes) (outer : Place) (start : Nat) :
    List Node → List Node
  | [] => []
  | node :: rest =>
    node.mapAttrs rule (outer ++ [start]) :: mapAttrsFrom rule outer (start + 1) rest
end

end StableLocator
