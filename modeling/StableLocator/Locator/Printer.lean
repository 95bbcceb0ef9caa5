import StableLocator.Locator.Query
import StableLocator.Text.Blank

/-!
# Locators as text

A locator is written as calls on a receiver: `page.get_by_role("button", name="Go", exact=True)`.
Dialects differ in the spelling of methods and of options, and in the sign before a comment.

* `Locator.render` writes the calls.
* `annotate` adds a comment for a severity, `copyable` takes it off again.
-/

namespace StableLocator

/-- The language that locators are written for, by name. -/
structure Dialect where
  name : String
  deriving DecidableEq, Repr

namespace Dialect

/-- Options are keywords, methods have underscores, comments begin with `#`. -/
def pytest : Dialect := ⟨"pytest"⟩

/-- Options are an object, methods have capitals, comments begin with `//`. All dialects with other
names are written in this way, too. -/
def js : Dialect := ⟨"js"⟩

def known : List Dialect := [pytest, js]

def commentSign (d : Dialect) : String := if d = pytest then "#" else "//"

end Dialect

/-! ## Texts -/

def escapedChar (c : Char) : List Char :=
  if c = '\\' then ['\\', '\\']
  else if c = '"' then ['\\', '"']
  else if c = '\n' then ['\\', 'n']
  else if c = '\r' then ['\\', 'r']
  else if c = '\t' then ['\\', 't']
  else [c]

def escapeText (s : String) : String := String.ofList (s.toList.flatMap escapedChar)

def quoteText (s : String) : String := "\"" ++ escapeText s ++ "\""

/-! ## Calls -/

def Strategy.method : Strategy → String
  | .testId => "getByTestId"
  | .roleName | .role => "getByRole"
  | .label => "getByLabel"
  | .placeholder => "getByPlaceholder"
  | .altText => "getByAltText"
  | .title => "getByTitle"
  | .text => "getByText"
  | .path => "locator"

/-- A name with each capital written as an underscore and the small letter. -/
def underscored (name : String) : String :=
  String.ofList (name.toList.flatMap fun c => if c.isUpper then ['_', c.toLower] else [c])

inductive OptionValue
  | text (s : String)
  | flag (b : Bool)
  deriving DecidableEq, Repr

namespace OptionValue

def render (d : Dialect) : OptionValue → String
  | .text s => quoteText s
  | .flag b =>
    if d = .pytest then if b then "True" else "False" else if b then "true" else "false"

end OptionValue

namespace Query

def method (q : Query) (d : Dialect) : String :=
  if d = .pytest then underscored q.strategy.method else q.strategy.method

/-- The options of the call: the name, if the query asks for one, and exactness. -/
def options (q : Query) : List (String × OptionValue) :=
  let exact := if q.exact then [("exact", OptionValue.flag true)] else []
  match q.strategy, q.name? with
  | .testId, _ | .path, _ | .role, _ => []
  | .roleName, some name => ("name", .text name) :: exact
  | _, _ => exact

def renderOptions (d : Dialect) (options : List (String × OptionValue)) : String :=
  if d = .pytest then ", ".intercalate (options.map fun (key, v) => key ++ "=" ++ v.render d)
  else
    "\x7b " ++ ", ".intercalate (options.map fun (key, v) => key ++ ": " ++ v.render d) ++ " \x7d"

def render (q : Query) (d : Dialect) : String :=
  let options := if q.options.isEmpty then "" else ", " ++ renderOptions d q.options
  q.method d ++ "(" ++ quoteText q.value ++ options ++ ")"

end Query

def Locator.render (l : Locator) (d : Dialect) (receiver : String := "page") : String :=
  ".".intercalate (receiver :: l.queries.map fun q => q.render d)

/-! ## Comments -/

/-- What to say of a severity. -/
def Severity.comment? : Severity → Option String
  | .none => Option.none
  | .warning => some "WARNING: fragile locator. Consider adding a data-testid."
  | .critical => some "CRITICAL: tag-only locator. Add a data-testid or accessible name."

/-- A text with the comment for a severity. -/
def annotate (text : String) (severity : Severity) (d : Dialect) : String :=
  match severity.comment? with
  | some comment => text ++ " " ++ d.commentSign ++ " " ++ comment
  | none => text

/-- Characters that begin a comment for a severity, from the white space before it on. -/
def beginsComment (cs : List Char) : Bool :=
  let names (rest : List Char) : Bool :=
    let rest := Text.trimStart rest
    "WARNING:".toList.isPrefixOf rest || "CRITICAL:".toList.isPrefixOf rest
  cs.head?.any Text.isBlank &&
    match Text.trimStart cs with
    | '#' :: rest => names rest
    | '/' :: '/' :: rest => names rest
    | _ => false

/-- The characters before the first comment for a severity. -/
def beforeComment : List Char → List Char
  | [] => []
  | c :: rest => if beginsComment (c :: rest) then [] else c :: beforeComment rest

/-- A text without its comment for a severity and without white space around it. -/
def copyable (text : String) : String := Text.trim (String.ofList (beforeComment text.toList))

end StableLocator
