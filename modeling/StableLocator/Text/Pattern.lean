import StableLocator.Text.Blank
import StableLocator.Text.Casing

/-!
# Patterns of text

A pattern is made of words in any case and of runs of blanks, one behind the other, by choice or left
out. Where it is looked for, all its ways are tried, so that a way which leads nowhere is given up for
the next one.

* `Pattern.rests` gives what is left of a text behind a pattern at its start, for each way.
-/

namespace StableLocator
namespace Text

inductive Pattern
  /-- A word in any case. -/
  | word (text : String)
  /-- Any number of blanks. -/
  | blanks
  /-- One pattern behind the other. -/
  | both (first second : Pattern)
  | either (one other : Pattern)
  /-- A pattern, or nothing. -/
  | optional (part : Pattern)
  deriving DecidableEq, Repr

namespace Pattern

instance : Append Pattern := ⟨both⟩

/-- What is left behind a run of blanks, the longest run first. -/
def restsOfBlanks : List Char → List (List Char)
  | [] => [[]]
  | c :: rest => if isBlank c then restsOfBlanks rest ++ [c :: rest] else [c :: rest]

/-- What is left behind the pattern at the start of a text, way by way in the order in which the ways
are tried. -/
def rests : Pattern → List Char → List (List Char)
  | word text, cs => (afterAlike? text.toList cs).toList
  | blanks, cs => restsOfBlanks cs
  | both first second, cs => (first.rests cs).flatMap second.rests
  | either one other, cs => one.rests cs ++ other.rests cs
  | optional part, cs => part.rests cs ++ [cs]

end Pattern
end Text
end StableLocator
