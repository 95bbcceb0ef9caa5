import StableLocator.Selector.Name
import StableLocator.Text.Numeral

/-!
# Writing selectors

* `escapeName` writes any text as a name, `escapeQuoted` as the inside of a quoted value.
* `ofId` selects the elements with an id: by `#` where the id is a plain name, else by a test of the
  attribute.
-/

namespace StableLocator
namespace Selector

/-- A character's code as an escape in a selector: hexadecimal digits and a blank to end them. -/
def codeEscape (c : Char) : List Char := '\\' :: (Nat.toDigits 16 c.toNat ++ [' '])

/-- A character of a name as a selector shows it. A digit is escaped where the name begins. -/
def escapedNameChar (begins : Bool) (c : Char) : List Char :=
  if Text.isLetterOrNumeral c && !(begins && Text.isDigit c) then [c]
  else if c = '-' ∨ c = '_' then [c]
  else codeEscape c

/-- The characters of a name as a selector shows them. A dash at the front leaves it to the next
character to begin the name. -/
def escapeNameChars : List Char → List Char
  | [] => []
  | '-' :: c :: rest => '-' :: escapedNameChar true c ++ rest.flatMap (escapedNameChar false)
  | c :: rest => escapedNameChar true c ++ rest.flatMap (escapedNameChar false)

def escapeName (s : String) : String := String.ofList (escapeNameChars s.toList)

def escapedQuotedChar (c : Char) : List Char := if c = '\\' ∨ c = '"' then ['\\', c] else [c]

def escapeQuoted (s : String) : String := String.ofList (s.toList.flatMap escapedQuotedChar)

def isPlainStart (c : Char) : Bool := c.isAlpha || c == '_'

def isPlainChar (c : Char) : Bool := c.isAlphanum || c == '_' || c == '-'

/-- The text reads as a name without any escape: a letter or underscore, after at most one dash,
and plain characters from there. -/
def isPlainName (s : String) : Bool :=
  let body := match s.toList with
    | '-' :: rest => rest
    | cs => cs
  match body with
  | [] => false
  | c :: rest => isPlainStart c && rest.all isPlainChar

def ofId (id : String) : String :=
  if isPlainName id then "#" ++ id else "[id=\"" ++ escapeQuoted id ++ "\"]"

end Selector
end StableLocator
