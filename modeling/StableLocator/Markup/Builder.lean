import StableLocator.Markup.Token
import StableLocator.Page.Spot

/-!
# Building pages from markup

`Page.read` builds the tree that the tags spell out and adds nothing to it: an element ends at its
end tag or at the end tag of an element around it, an element that never has content ends at once,
and an end tag without an open element is ignored.

Text between two tags is one node. The end tag of an element that has ended at once is no tag at
all: text goes on across it. Text of white space alone shrinks to a line feed or a space, unless an
element that keeps white space is open.
-/

namespace StableLocator
namespace Markup

def voidTags : List String :=
  ["area", "base", "br", "col", "embed", "hr", "img", "input", "keygen", "link", "menuitem",
   "meta", "param", "source", "track", "wbr", "basefont", "bgsound", "command", "frame", "image",
   "isindex", "nextid", "spacer"]

def spaceKeepingTags : List String := ["pre", "textarea"]

/-- Attributes that hold a list of tokens on every element. -/
def tokenAttributes : List String := ["class", "accesskey", "dropzone"]

/-- Attributes that hold a list of tokens on elements with a certain tag. -/
def tokenAttributesOf : String → List String
  | "a" => ["rel", "rev"]
  | "link" => ["rel", "rev"]
  | "area" => ["rel"]
  | "td" => ["headers"]
  | "th" => ["headers"]
  | "form" => ["accept-charset"]
  | "object" => ["archive"]
  | "icon" => ["sizes"]
  | "iframe" => ["sandbox"]
  | "output" => ["for"]
  | _ => []

/-- An attribute's value as the page holds it. -/
def attrValue (tag name text : String) : AttrValue :=
  if tokenAttributes.contains name || (tokenAttributesOf tag).contains name then
    .tokens (Text.splitWords text)
  else .single text

/-- The attributes of a tag. Of several with one name the last value counts, in the first place. -/
def attributesOf (tag : String) (raw : RawAttributes) : Attributes :=
  raw.foldl (fun attrs (name, text) => attrs.put name (attrValue tag name text)) []

/-- An open element with the children read so far, last first. -/
structure OpenElement where
  tag : String
  attrs : Attributes
  children : List Node

structure Building where
  /-- The open elements, innermost first. -/
  opened : List OpenElement := []
  /-- The nodes at the top, last first. -/
  top : List Node := []
  /-- The text not yet placed, last piece first. -/
  pending : List String := []
  /-- The tags of elements that ended at once and whose end tag may still come. -/
  spent : List String := []

namespace Building

def place (b : Building) (node : Node) : Building :=
  match b.opened with
  | [] => { b with top := node :: b.top }
  | e :: rest => { b with opened := { e with children := node :: e.children } :: rest }

def keepsSpace (b : Building) : Bool := b.opened.any fun e => spaceKeepingTags.contains e.tag

def shrink (b : Building) (content : String) : String :=
  if b.keepsSpace || !content.toList.all Text.isMarkupBlank then content
  else if content.toList.contains '\n' then "\n" else " "

/-- The kind of running text here: that of the innermost open element with a kind of its own. -/
def textKind (b : Building) : TextKind :=
  (b.opened.findSome? fun e => TextKind.ofTag? e.tag).getD .plain

/-- The pending text placed as one node. -/
def flush (b : Building) : Building :=
  match b.pending with
  | [] => b
  | pieces =>
    let content := b.shrink (String.join pieces.reverse)
    { b with pending := [] }.place (.text b.textKind content)

def note (b : Building) (kind : TextKind) (content : String) : Building :=
  let b := b.flush
  b.place (.text kind (b.shrink content))

def closeOne (b : Building) : Building :=
  match b.opened with
  | [] => b
  | e :: rest => { b with opened := rest }.place (.element e.tag e.attrs e.children.reverse)

/-- Open elements closed up to the nearest with a tag, `depth` of them at most. -/
def closeTo (tag : String) : (depth : Nat) → Building → Building
  | 0, b => b
  | depth + 1, b =>
    match b.opened with
    | [] => b
    | e :: _ => if e.tag = tag then b.closeOne else closeTo tag depth b.closeOne

/-- The tree after one more token. -/
def add (b : Building) : Token → Building
  | .text content => { b with pending := content :: b.pending }
  | .openTag tag attrs closed =>
    let b := b.flush
    let b := { b with opened := ⟨tag, attributesOf tag attrs, []⟩ :: b.opened }
    -- A tag that closes itself ends its own element, whatever end tags are still to come: in
    -- `<br><br/>x` the text is in neither of the two.
    if closed then b.closeOne
    else if voidTags.contains tag then { b.closeOne with spent := tag :: b.spent }
    else b
  | .closeTag tag =>
    if b.spent.contains tag then { b with spent := b.spent.erase tag }
    else
      let b := b.flush
      if b.opened.any (·.tag == tag) then closeTo tag b.opened.length b else b
  | .comment content => b.note .comment content
  | .doctype content => b.note .doctype content
  | .declaration content => b.note .declaration content
  | .cdata content => b.note .cdata content
  | .instruction content => b.note .instruction content

def closeAll : (depth : Nat) → Building → Building
  | 0, b => b
  | depth + 1, b => closeAll depth b.closeOne

def finish (b : Building) : List Node :=
  let b := b.flush
  (closeAll b.opened.length b).top.reverse

end Building

def nodesOf (tokens : List Token) : List Node :=
  (tokens.foldl Building.add {}).finish

end Markup

namespace Page

/-- The title that the page's own `title` element gives it. -/
def ownTitle (page : Page) : String :=
  match page.elements.find? fun s => s.tag == "title" with
  | some title => Text.collapse title.allText
  | none => ""

/-- The page that markup spells out. -/
def read (markup : String) (url : String := "") : Except Markup.Rejection Page := do
  let tokens ← Markup.Token.readAll markup
  let page : Page := { nodes := Markup.nodesOf tokens, url := url }
  pure { page with title := page.ownTitle }

end Page
end StableLocator
