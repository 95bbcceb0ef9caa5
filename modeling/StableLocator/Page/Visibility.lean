import StableLocator.Page.Spot
import StableLocator.Text.Pattern

/-!
# Visibility

An element is hidden by itself when its tag is never rendered, when its stamp says so, when it has
the `hidden` attribute, when it is a hidden input, or when its inline style hides it. It is visible
when its stamp says so; without a stamp, when neither it nor an element around it is hidden by
itself.

A live page stamps each element with its visibility as computed by the browser; the stamp then
takes the place of the rules for markup.
-/

namespace StableLocator

namespace Style

open Text (Pattern)

/-- A property and its value, with any blanks around the colon. -/
def declaration (property : String) (value : Pattern) : Pattern :=
  .word property ++ .blanks ++ .word ":" ++ .blanks ++ value

def hidingDeclaration : Pattern :=
  .either (declaration "display" (.word "none"))
    (declaration "visibility" (.either (.word "hidden") (.word "collapse")))

/-- What hides an element between two ends of declarations: one of these declarations, possibly with
a note of importance. -/
def hidingPattern : Pattern :=
  .blanks ++ hidingDeclaration ++ .blanks ++ .optional (.word "!important") ++ .blanks

/-- What stands behind each separator, up to the end of the text. -/
def behindEach (separator : Char) : List Char → List (List Char)
  | [] => []
  | c :: rest =>
    if c = separator then rest :: behindEach separator rest else behindEach separator rest

/-- A declaration may end here: before a semicolon and at the end, where a last line feed does not
count. -/
def endsDeclaration : List Char → Bool
  | [] => true
  | ['\n'] => true
  | c :: _ => c == ';'

/-- A hiding declaration begins here, with the text or behind a semicolon. -/
def hidesFrom (cs : List Char) : Bool := (hidingPattern.rests cs).any endsDeclaration

/-- An inline style hides the element: a hiding declaration is found in it. -/
def hides (style : String) : Bool :=
  (style.toList :: behindEach ';' style.toList).any hidesFrom

end Style

namespace Visibility

def unrenderedTags : List String :=
  ["script", "style", "noscript", "template", "head", "meta", "link", "title", "base"]

def stampName : String := "data-locator-hidden"

def stampHides (stamp : String) : Bool := Text.lower (Text.trim stamp) == "true"

def isUnrendered (tag : String) : Bool := unrenderedTags.contains (Text.lower tag)

def isHiddenInput (tag : String) (attrs : Attributes) : Bool :=
  Text.lower tag == "input" &&
    Text.lower (Text.trim ((attrs.text? "type").getD "")) == "hidden"

/-- An element with this tag and these attributes is hidden by itself. -/
def hidesSelf (tag : String) (attrs : Attributes) : Bool :=
  isUnrendered tag ||
    match attrs.text? stampName with
    | some stamp => stampHides stamp
    | none =>
      attrs.has "hidden" || isHiddenInput tag attrs || (attrs.text? "style").any Style.hides

end Visibility

namespace Spot

def hidesSelf (s : Spot) : Bool := Visibility.hidesSelf s.tag s.attrs

/-- The element is rendered and not hidden. -/
def isVisible (s : Spot) : Bool :=
  !s.isDocument && !Visibility.isUnrendered s.tag &&
    match s.attr? Visibility.stampName with
    | some stamp => !Visibility.stampHides stamp
    | none => !s.hidesSelf && s.ancestors.all fun a => !a.hidesSelf

end Spot

/-! ## Visible text -/

namespace Visibility

def blockTags : List String :=
  ["address", "article", "aside", "blockquote", "br", "dd", "details", "dialog", "div", "dl",
   "dt", "fieldset", "figcaption", "figure", "footer", "form", "h1", "h2", "h3", "h4", "h5",
   "h6", "header", "hr", "li", "main", "nav", "ol", "p", "pre", "section", "summary", "table",
   "tbody", "td", "tfoot", "th", "thead", "tr", "ul"]

def isBlock (tag : String) : Bool := blockTags.contains (Text.lower tag)

mutual
/-- The running text that shows in a node, with a space on either side of a block. -/
def shownIn : Node → String
  | .text kind content => if kind = .plain then content else ""
  | .element tag attrs children =>
    if hidesSelf tag attrs then ""
    else if isBlock tag then " " ++ shownInRow children ++ " "
    else shownInRow children

def shownInRow : List Node → String
  | [] => ""
  | node :: rest => shownIn node ++ shownInRow rest
end

end Visibility

namespace Spot

/-- The text of a visible element as it shows, with white space collapsed; nothing for others. -/
def visibleText (s : Spot) : String :=
  if s.isVisible then Text.collapse (Visibility.shownInRow s.nodes) else ""

/-! ## Form values -/

def valueStamp : String := "data-locator-value"

/-- The value of the selected option of a list of options: the first marked one, else the first. -/
def selectedValue (options : List Spot) : String :=
  match options.find? (·.attrs.has "selected") <|> options.head? with
  | none => ""
  | some option =>
    match option.attr? "value" with
    | some value => value
    | none => Text.collapse option.allText

/-- The value that a form control holds. -/
def formValue (s : Spot) : String :=
  match s.attr? valueStamp with
  | some value => value
  | none =>
    if s.name = "input" then (s.attr? "value").getD ""
    else if s.name = "textarea" then s.allText
    else if s.name = "select" then selectedValue (s.descendants.filter fun o => o.tag == "option")
    else ""

end Spot
end StableLocator
