import StableLocator.Page.Visibility

/-!
# Roles

The role of an element is its explicit one, as written, or the one that its tag implies. Inputs
have a role by their type.
-/

namespace StableLocator
namespace Spot

def tagRoles : List (String × String) :=
  [("a", "link"), ("area", "link"), ("button", "button"), ("h1", "heading"), ("h2", "heading"),
   ("h3", "heading"), ("h4", "heading"), ("h5", "heading"), ("h6", "heading"), ("img", "img"),
   ("textarea", "textbox"), ("select", "combobox"), ("li", "listitem"), ("ul", "list"),
   ("ol", "list"), ("nav", "navigation"), ("form", "form"), ("dialog", "dialog"),
   ("table", "table"), ("tr", "row"), ("td", "cell"), ("th", "columnheader"),
   ("thead", "rowgroup"), ("tbody", "rowgroup"), ("tfoot", "rowgroup"), ("fieldset", "group"),
   ("optgroup", "group"), ("option", "option"), ("progress", "progressbar"),
   ("meter", "progressbar"), ("article", "article"), ("aside", "complementary"),
   ("footer", "contentinfo"), ("header", "banner"), ("main", "main"), ("section", "region"),
   ("summary", "button"), ("details", "group")]

/-- Roles that the type of an input implies; all others are text boxes. -/
def inputRoles : List (String × String) :=
  [("button", "button"), ("submit", "button"), ("reset", "button"), ("checkbox", "checkbox"),
   ("radio", "radio"), ("number", "spinbutton"), ("range", "slider")]

def buttonTypes : List String := ["button", "submit", "reset"]

def textTypes : List String :=
  ["", "text", "email", "password", "search", "tel", "url", "date", "time", "datetime-local",
   "month", "week"]

/-- An attribute's text with white space collapsed; nothing where there is no attribute. -/
def attrText (s : Spot) (name : String) : String := Text.collapse ((s.attr? name).getD "")

def inputType (s : Spot) : String := Text.lower (s.attrText "type")

def role (s : Spot) : Option String :=
  let implied :=
    if s.name = "input" then some ((inputRoles.lookup s.inputType).getD "textbox")
    else tagRoles.lookup s.name
  match s.attr? "role" with
  | some explicit => if Text.trim explicit = "" then implied else some (Text.trim explicit)
  | none => implied

def isImageLike (s : Spot) : Bool :=
  s.name == "img" || s.name == "area" || (s.name == "input" && s.inputType == "image")

def isButtonLike (s : Spot) : Bool := s.name == "input" && buttonTypes.contains s.inputType

def isTextLike (s : Spot) : Bool :=
  s.name == "textarea" || (s.name == "input" && textTypes.contains s.inputType)

end Spot
end StableLocator
