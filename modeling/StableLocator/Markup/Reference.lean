import StableLocator.Markup.Entity
import StableLocator.Number.Integer

/-!
# Character references

`numericChar` gives the character of a numeric reference; numbers from 128 to 159 count in the old
western code page, and zero and a number that is no character give U+FFFD, in running text as in the
value of an attribute. Half of a surrogate pair is no character either: no text here holds one on its
own, so markup whose running text names one is outside. `decodeAll` replaces the references in the
value of an attribute, where a reference need not end in a semicolon. `longNumeral?` finds a decimal
number with more digits than a numeral may have.
-/

namespace StableLocator
namespace Markup

/-- The characters of the western code page from 128 to 159. -/
def westernPage : List Nat :=
  [0x20AC, 0x81, 0x201A, 0x192, 0x201E, 0x2026, 0x2020, 0x2021, 0x2C6, 0x2030, 0x160, 0x2039,
   0x152, 0x8D, 0x17D, 0x8F, 0x90, 0x2018, 0x2019, 0x201C, 0x201D, 0x2022, 0x2013, 0x2014,
   0x2DC, 0x2122, 0x161, 0x203A, 0x153, 0x9D, 0x17E, 0x178]

/-- The character that a number stands for. -/
def numericChar (n : Nat) : Char :=
  if n = 0 ∨ (0xD800 ≤ n ∧ n < 0xE000) ∨ 0x10FFFF < n then Char.ofNat 0xFFFD
  else if 0x80 ≤ n ∧ n < 0xA0 then Char.ofNat (westernPage.getD (n - 0x80) n)
  else Char.ofNat n

/-- The number stands for a control or a code that no text holds. -/
def isExcludedCode (n : Nat) : Bool :=
  (0x1 ≤ n && n ≤ 0x8) || n == 0xB || (0xE ≤ n && n ≤ 0x1F) || n == 0x7F ||
    (0xFDD0 ≤ n && n ≤ 0xFDEF) || (n ≤ 0x10FFFF && 0xFFFE ≤ n % 0x10000)

def hexDigit? (c : Char) : Option Nat :=
  if '0' ≤ c ∧ c ≤ '9' then some (c.toNat - 48)
  else if 'a' ≤ c ∧ c ≤ 'f' then some (c.toNat - 87)
  else if 'A' ≤ c ∧ c ≤ 'F' then some (c.toNat - 55)
  else none

def isHexDigit (c : Char) : Bool := (hexDigit? c).isSome

def digitsValue (base : Nat) (digits : List Char) : Nat :=
  digits.foldl (fun n c => n * base + (hexDigit? c).getD 0) 0

/-- The number after `&#`, and the characters after its digits; none without digits. -/
def takeNumber? : List Char → Option (Nat × List Char)
  | cs@(x :: rest) =>
    if x = 'x' ∨ x = 'X' then
      let (digits, after) := rest.span isHexDigit
      if digits.isEmpty then none else some (digitsValue 16 digits, after)
    else
      let (digits, after) := cs.span Char.isDigit
      if digits.isEmpty then none else some (digitsValue 10 digits, after)
  | [] => none

/-- The number of decimal digits at the start, if there are more than a numeral may have. -/
def excessDigits? (cs : List Char) : Option Nat :=
  let digits := (cs.takeWhile Char.isDigit).length
  if Number.digitLimit < digits then some digits else none

/-- The number of digits of the first decimal reference that has too many. -/
def longNumeral? : List Char → Option Nat
  | [] => none
  | '&' :: '#' :: rest => excessDigits? rest <|> longNumeral? rest
  | _ :: rest => longNumeral? rest

def skipSemicolon : List Char → List Char
  | ';' :: rest => rest
  | cs => cs

/-! ## References in attribute values -/

def isNameChar (c : Char) : Bool :=
  !(c == '\t' || c == '\n' || c == '\x0c' || c == ' ' || c == '<' || c == '&' || c == '#' ||
    c == ';')

/-- The longest name at the start of a word that counts without a semicolon, tried from `length`
characters down to two, with the text it stands for. -/
def longestOpenName? (word : List Char) : (length : Nat) → Option (String × List Char)
  | 0 => none
  | 1 => none
  | length + 1 =>
    match Entity.openText? (String.ofList (word.take (length + 1))) with
    | some text => some (text, word.drop (length + 1))
    | none => longestOpenName? word length

/-- What a word after `&` stands for, when a semicolon follows it or not. -/
def nameText (word : List Char) (closed : Bool) : List Char :=
  let whole := String.ofList word
  let tail := if closed then [';'] else []
  match if closed then Entity.text? whole else Entity.openText? whole with
  | some text => text.toList
  | none =>
    match longestOpenName? word (if closed then word.length else word.length - 1) with
    | some (text, rest) => text.toList ++ rest ++ tail
    | none => '&' :: word ++ tail

/-- Attribute text with its references replaced; `fuel` counts the characters. -/
def decodeFrom : (fuel : Nat) → List Char → List Char
  | 0, cs => cs
  | _, [] => []
  | fuel + 1, '&' :: '#' :: rest =>
    match takeNumber? rest with
    | some (n, after) =>
      let shown := if n ≠ 0xD ∧ isExcludedCode n then [] else [numericChar n]
      shown ++ decodeFrom fuel (skipSemicolon after)
    | none => '&' :: decodeFrom fuel ('#' :: rest)
  | fuel + 1, '&' :: rest =>
    let word := (rest.takeWhile isNameChar).take 32
    let after := rest.drop word.length
    if word.isEmpty then '&' :: decodeFrom fuel rest
    else nameText word (after.head? == some ';') ++ decodeFrom fuel (skipSemicolon after)
  | fuel + 1, c :: rest => c :: decodeFrom fuel rest

def decodeAll (cs : List Char) : List Char := decodeFrom cs.length cs

end Markup
end StableLocator
