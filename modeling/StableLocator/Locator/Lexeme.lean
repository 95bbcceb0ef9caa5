import StableLocator.Text.Blank
import StableLocator.Text.Numeral
import StableLocator.Text.Quoted

/-!
# The words of a locator text

A locator text is read as words, numbers, quoted texts and marks, each with its position. White
space between them does not count, and a comment, from `#` or `//` on, ends the text.
-/

namespace StableLocator

inductive LexemeKind
  | word
  | number
  | text
  | mark
  deriving DecidableEq, Repr

def LexemeKind.name : LexemeKind → String
  | .word => "ident"
  | .number => "number"
  | .text => "string"
  | .mark => "punct"

/-- A part of a locator text; its value is what it says, without quotes and escapes. -/
structure Lexeme where
  kind : LexemeKind
  value : String
  position : Nat
  deriving DecidableEq, Repr

inductive ReadingFault
  | strangeCharacter (c : Char) (position : Nat)
  | openText (position : Nat)
  | nothing
  | missing (wanted : String)
  | unexpected (wanted : String) (found : Lexeme)
  | missingValue
  | unsupportedValue (found : Lexeme)
  | unknownMethod (name : String)
  | property (name : String)
  | noCall
  deriving DecidableEq, Repr

def ReadingFault.message : ReadingFault → String
  | .strangeCharacter c position =>
    "Unexpected character " ++ Text.quoted (String.singleton c) ++ " at " ++ Nat.repr position ++
      "."
  | .openText position => "Unterminated string starting at " ++ Nat.repr position ++ "."
  | .nothing => "Empty expression."
  | .missing wanted => "Expected " ++ wanted ++ " but reached the end."
  | .unexpected wanted found =>
    "Expected " ++ wanted ++ " at " ++ Nat.repr found.position ++ ", got " ++
      Text.quoted found.value ++ "."
  | .missingValue => "Expected a value but reached the end."
  | .unsupportedValue found =>
    "Unsupported option value " ++ Text.quoted found.value ++ " at " ++ Nat.repr found.position ++
      "."
  | .unknownMethod name => "Unknown locator method " ++ Text.quoted name ++ "."
  | .property name => "Property access " ++ Text.quoted name ++ " is not supported."
  | .noCall => "No locator call found."

namespace Lexeme

def isQuote (c : Char) : Bool := c == '"' || c == '\'' || c == '`'

def isMark (c : Char) : Bool := "().,\x7b\x7d:=".toList.contains c

def isWordStart (c : Char) : Bool := Text.isLetter c || c == '_' || c == '$'

def isWordPart (c : Char) : Bool := Text.isLetterOrNumeral c || c == '_' || c == '$'

def unescaped (c : Char) : Char :=
  if c = 'n' then '\n' else if c = 'r' then '\r' else if c = 't' then '\t' else c

/-- The content of a quoted text and the characters after its closing quote; none if it is never
closed. -/
def takeText? (quote : Char) : List Char → Option (List Char × List Char)
  | [] => none
  | '\\' :: [] => none
  | '\\' :: c :: rest => (takeText? quote rest).map fun (body, left) => (unescaped c :: body, left)
  | c :: rest =>
    if c = quote then some ([], rest)
    else (takeText? quote rest).map fun (body, left) => (c :: body, left)

def beginsNote : List Char → Bool
  | '#' :: _ => true
  | '/' :: '/' :: _ => true
  | _ => false

/-- A quoted text takes at least its closing quote. -/
theorem length_lt_of_takeText? {quote : Char} {cs body rest : List Char}
    (h : takeText? quote cs = some (body, rest)) : rest.length < cs.length := by
  fun_induction takeText? quote cs generalizing body rest with
  | case1 => simp at h
  | case2 => simp at h
  | case3 c cs ih =>
    simp only [Option.map_eq_some_iff, Prod.mk.injEq] at h
    obtain ⟨⟨b, r⟩, hr, _, rfl⟩ := h
    have := ih hr
    simp only [List.length_cons]
    omega
  | case4 =>
    simp only [Option.some.injEq, Prod.mk.injEq] at h
    simp [← h.2]
  | case5 =>
    rename_i ih
    simp only [Option.map_eq_some_iff, Prod.mk.injEq] at h
    obtain ⟨⟨b, r⟩, hr, _, rfl⟩ := h
    have := ih hr
    simp only [List.length_cons]
    omega

/-- The lexemes of the characters that stand from a position on. -/
def readFrom (position : Nat) : List Char → Except ReadingFault (List Lexeme)
  | [] => .ok []
  | c :: rest =>
    if Text.isBlank c then readFrom (position + 1) rest
    else if beginsNote (c :: rest) then .ok []
    else if isQuote c then
      match h : takeText? c rest with
      | none => .error (.openText position)
      | some (body, left) =>
        have := length_lt_of_takeText? h
        (readFrom (position + 1 + (rest.length - left.length)) left).map
          (⟨.text, String.ofList body, position⟩ :: ·)
    else if Text.isDigit c then
      let digits := c :: rest.takeWhile Text.isDigit
      have := (List.dropWhile_suffix Text.isDigit (l := rest)).length_le
      (readFrom (position + digits.length) (rest.dropWhile Text.isDigit)).map
        (⟨.number, String.ofList digits, position⟩ :: ·)
    else if isMark c then
      (readFrom (position + 1) rest).map (⟨.mark, String.singleton c, position⟩ :: ·)
    else if isWordStart c then
      let word := c :: rest.takeWhile isWordPart
      have := (List.dropWhile_suffix isWordPart (l := rest)).length_le
      (readFrom (position + word.length) (rest.dropWhile isWordPart)).map
        (⟨.word, String.ofList word, position⟩ :: ·)
    else .error (.strangeCharacter c position)
  termination_by cs => cs.length

def readAll (s : String) : Except ReadingFault (List Lexeme) := readFrom 0 s.toList

end Lexeme
end StableLocator
