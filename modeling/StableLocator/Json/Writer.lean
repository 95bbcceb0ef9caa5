import StableLocator.Json.Value

/-!
# Writing JSON

Texts are written in ASCII: a character outside it becomes one escaped code unit or two. `compact`
writes a value on one line, `sheet` an object with one member a line. `sheet?` refuses an object with
an integer that is too long to be written.
-/

namespace StableLocator
namespace Json

def unitEscape (unit : Nat) : List Char := '\\' :: 'u' :: Text.hexPadded 4 unit

def escapeChar (c : Char) : List Char :=
  if c = '"' then ['\\', '"']
  else if c = '\\' then ['\\', '\\']
  else if c = '\n' then ['\\', 'n']
  else if c = '\r' then ['\\', 'r']
  else if c = '\t' then ['\\', 't']
  else if c = '\x0c' then ['\\', 'f']
  else if c = '\x08' then ['\\', 'b']
  else if 0x20 ≤ c.toNat ∧ c.toNat < 0x7F then [c]
  else if c.toNat < 0x10000 then unitEscape c.toNat
  else
    let offset := c.toNat - 0x10000
    unitEscape (0xD800 + offset / 0x400) ++ unitEscape (0xDC00 + offset % 0x400)

def writeText (s : String) : String :=
  String.ofList ('"' :: s.toList.flatMap escapeChar ++ ['"'])

mutual
def compact : Json → String
  | null => "null"
  | bool b => if b then "true" else "false"
  | int n => Number.writeInteger n
  | float .nan => "NaN"
  | float (.infinite negative) => if negative then "-Infinity" else "Infinity"
  | float x => x.write
  | str s => writeText s
  | arr items => "[" ++ ", ".intercalate (compactItems items) ++ "]"
  | obj members => "\x7b" ++ ", ".intercalate (compactMembers members) ++ "\x7d"

def compactItems : List Json → List String
  | [] => []
  | item :: rest => item.compact :: compactItems rest

def compactMembers : List (String × Json) → List String
  | [] => []
  | (key, value) :: rest => (writeText key ++ ": " ++ value.compact) :: compactMembers rest
end

/-- An object with one member a line, each indented by two spaces. -/
def sheet (members : List (String × Json)) : String :=
  "\x7b\n  " ++ ",\n  ".intercalate (compactMembers members) ++ "\n\x7d"

/-! ## Integers that are too long -/

mutual
/-- An integer somewhere in a value is too long to be written. -/
def hasLongInteger : Json → Bool
  | int n => Number.isLong n
  | arr items => anyLongItem items
  | obj members => anyLongMember members
  | _ => false

def anyLongItem : List Json → Bool
  | [] => false
  | item :: rest => item.hasLongInteger || anyLongItem rest

def anyLongMember : List (String × Json) → Bool
  | [] => false
  | (_, value) :: rest => value.hasLongInteger || anyLongMember rest
end

/-- An object with one member a line, if all integers in it can be written. -/
def sheet? (members : List (String × Json)) : Except Number.LongInteger String :=
  if anyLongMember members then .error {} else .ok (sheet members)

end Json
end StableLocator
