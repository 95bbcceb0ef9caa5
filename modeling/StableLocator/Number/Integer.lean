import StableLocator.Text.Blank
import StableLocator.Text.Numeral
import StableLocator.Text.Quoted

/-!
# Integers written as text

An integer is a sign and decimal digits of any script, with single underscores between digits and
blanks around the whole. Blanks are white space without the four separators of ASCII. A numeral of
more than `digitLimit` digits is refused, so that no text can ask for an unbounded computation, and
an integer of as many digits is not written where its length is checked.
-/

namespace StableLocator
namespace Number

def digitLimit : Nat := 4300

inductive IntegerError
  | malformed (text : String)
  | tooLong (digits : Nat)
  deriving DecidableEq, Repr

/-- An error in words; of a long text only the start is shown. -/
def IntegerError.message : IntegerError → String
  | .malformed text =>
    let shown := String.ofList ((Text.quoted text).toList.take 200)
    s!"invalid literal for int() with base 10: {shown}"
  | .tooLong digits =>
    s!"Exceeds the limit ({digitLimit} digits) for integer string conversion: " ++
      s!"value has {digits} digits; use sys.set_int_max_str_digits() to increase the limit"

def ofDigits (digits : List Nat) : Nat := digits.foldl (fun n d => n * 10 + d) 0

/-- The digits of a numeral with single underscores between them; none for other text. -/
def digitRun? : List Char → Option (List Nat)
  | [] => none
  | [c] => (Text.decimalValue? c).map ([·])
  | c :: '_' :: rest => do
    let d ← Text.decimalValue? c
    let ds ← digitRun? rest
    pure (d :: ds)
  | c :: rest => do
    let d ← Text.decimalValue? c
    let ds ← digitRun? rest
    pure (d :: ds)

/-- A sign taken off the front: whether it is a minus, and the rest. -/
def splitSign : List Char → Bool × List Char
  | '-' :: rest => (true, rest)
  | '+' :: rest => (false, rest)
  | rest => (false, rest)

def withSign (negative : Bool) (n : Nat) : Int := if negative then -(n : Int) else n

/-- White space that may stand around an integer. -/
def isMargin (c : Char) : Bool := Text.isBlank c && !(0x1C ≤ c.toNat && c.toNat ≤ 0x1F)

def isNumeralChar (c : Char) : Bool := c == '_' || (Text.decimalValue? c).isSome

/-- The integer that a text denotes. The length of the numeral counts before what follows it. -/
def readInteger (s : String) : Except IntegerError Int :=
  let (negative, body) := splitSign (s.toList.dropWhile isMargin)
  let (numeral, rest) := body.span isNumeralChar
  match digitRun? numeral with
  | none => .error (.malformed s)
  | some digits =>
    if digitLimit < digits.length then .error (.tooLong digits.length)
    else if rest.all isMargin then .ok (withSign negative (ofDigits digits))
    else .error (.malformed s)

def writeInteger (n : Int) : String := toString n

/-- The integer has more digits than a numeral may have. -/
def isLong (n : Int) : Bool := digitLimit < (Nat.toDigits 10 n.natAbs).length

/-- An integer was too long to be written. -/
structure LongInteger where
  deriving DecidableEq, Repr

def LongInteger.message (_ : LongInteger) : String :=
  s!"Exceeds the limit ({digitLimit} digits) for integer string conversion; " ++
    "use sys.set_int_max_str_digits() to increase the limit"

end Number
end StableLocator
