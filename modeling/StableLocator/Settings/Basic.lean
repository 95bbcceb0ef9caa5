import StableLocator.Json.Writer
import StableLocator.Locator.Ladder

/-!
# Settings

Settings come from three places: a JSON object, a text for one field, and the defaults, which take
the place of every value that makes no sense. Only an infinite number is refused.

* `Settings.ofMembers` reads an object, `Settings.members` writes one.
* `Settings.set` changes one field from a text.
-/

namespace StableLocator

def defaultMarker : String := "data-locator-verifier-highlight"

/-- What can be set. -/
structure Settings where
  dialect : Dialect := .pytest
  textLimit : Int := defaultTextLimit
  ancestorDepth : Int := defaultAncestorDepth
  marker : String := defaultMarker
  logToFile : Bool := false
  deriving DecidableEq, Repr

namespace Settings

/-! ## Single values -/

def dialectAliases : List (String × Dialect) :=
  [("javascript", .js), ("typescript", .js), ("ts", .js), ("python", .pytest)]

def readDialect (v : Json) : Dialect :=
  let name := Text.lower (Text.trim v.shown)
  let dialect := (dialectAliases.lookup name).getD ⟨name⟩
  if Dialect.known.contains dialect then dialect else .pytest

/-- A positive integer, else the default. -/
def positiveOr (default : Int) (n : Option Int) : Int :=
  match n with
  | some n => if 0 < n then n else default
  | none => default

/-- The positive integer of a value, else the default. -/
def readPositive (v : Json) (default : Int) : Except Json.InfiniteNumber Int :=
  v.integer?.map (positiveOr default)

/-- The name of the marker attribute, the default for a blank one. -/
def readMarker (v : Json) : String :=
  let name := Text.trim v.shown
  if name = "" then defaultMarker else name

def onWords : List String := ["1", "true", "yes", "on"]

def readSwitch (text : String) : Bool := onWords.contains (Text.lower (Text.trim text))

/-! ## Objects -/

/-- The settings that an object holds. -/
def ofMembers (members : List (String × Json)) : Except Json.InfiniteNumber Settings := do
  let v := Json.obj members
  let textLimit ← readPositive (v.getD "text_limit") defaultTextLimit
  let ancestorDepth ← readPositive (v.getD "ancestor_depth") defaultAncestorDepth
  pure {
    dialect := readDialect (v.getD "dialect")
    textLimit
    ancestorDepth
    marker := readMarker (v.getD "marker_attribute")
    logToFile := (v.getD "log_to_file").isTruthy }

def members (s : Settings) : List (String × Json) :=
  [("ancestor_depth", .int s.ancestorDepth), ("dialect", .str s.dialect.name),
   ("log_to_file", .bool s.logToFile), ("marker_attribute", .str s.marker),
   ("text_limit", .int s.textLimit)]

/-! ## Fields -/

/-- The fields, in the order in which they are listed. -/
inductive Field
  | dialect
  | textLimit
  | ancestorDepth
  | marker
  | logToFile
  deriving DecidableEq, Repr

namespace Field

def all : List Field := [.dialect, .textLimit, .ancestorDepth, .marker, .logToFile]

def key : Field → String
  | .dialect => "dialect"
  | .textLimit => "text_limit"
  | .ancestorDepth => "ancestor_depth"
  | .marker => "marker_attribute"
  | .logToFile => "log_to_file"

def ofKey? (key : String) : Option Field := all.find? fun f => f.key == key

end Field

def value (s : Settings) : Field → Json
  | .dialect => .str s.dialect.name
  | .textLimit => .int s.textLimit
  | .ancestorDepth => .int s.ancestorDepth
  | .marker => .str s.marker
  | .logToFile => .bool s.logToFile

/-- The positive integer that a text spells, else the default. -/
def positiveOfText (text : String) (default : Int) : Int :=
  positiveOr default (Number.readInteger text).toOption

/-- The settings with one field as a text says. -/
def set (s : Settings) (text : String) : Field → Settings
  | .dialect => { s with dialect := readDialect (.str text) }
  | .textLimit => { s with textLimit := positiveOfText text defaultTextLimit }
  | .ancestorDepth => { s with ancestorDepth := positiveOfText text defaultAncestorDepth }
  | .marker => { s with marker := readMarker (.str text) }
  | .logToFile => { s with logToFile := readSwitch text }

/-- The settings with the field of a name as a text says; none if there is no such field. -/
def update? (s : Settings) (key text : String) : Option Settings :=
  (Field.ofKey? key).map (s.set text)

end Settings
end StableLocator
