import StableLocator.Json.Value

/-!
# Reading JSON

The strict grammar, with `NaN`, `Infinity` and `-Infinity` as numbers besides. Of members with one
name the last value counts. A text that begins with a byte order mark is refused.

Every reader takes the characters from its place on and gives what it read with the characters
after it. The nested readers count down `fuel`; each step takes a character at least, so the number
of characters is enough.
-/

namespace StableLocator
namespace Json

inductive ReadError
  | malformed
  | longNumeral (error : Number.IntegerError)
  deriving DecidableEq, Repr

abbrev Reading (α : Type) := Except ReadError (α × List Char)

def isSpace (c : Char) : Bool := c == ' ' || c == '\t' || c == '\n' || c == '\r'

def skipSpace (cs : List Char) : List Char := cs.dropWhile isSpace

/-! ## Texts -/

def hexValue? (c : Char) : Option Nat :=
  if '0' ≤ c ∧ c ≤ '9' then some (c.toNat - 48)
  else if 'a' ≤ c ∧ c ≤ 'f' then some (c.toNat - 87)
  else if 'A' ≤ c ∧ c ≤ 'F' then some (c.toNat - 55)
  else none

def codeUnit? (a b c d : Char) : Option Nat := do
  let w ← hexValue? a
  let x ← hexValue? b
  let y ← hexValue? c
  let z ← hexValue? d
  pure (((w * 16 + x) * 16 + y) * 16 + z)

def isHighHalf (unit : Nat) : Bool := 0xD800 ≤ unit && unit < 0xDC00

def isLowHalf (unit : Nat) : Bool := 0xDC00 ≤ unit && unit < 0xE000

/-- A code unit that is no half of a pair as its character, a half on its own as U+FFFD. -/
def unitChar (unit : Nat) : Char :=
  if isHighHalf unit || isLowHalf unit then Char.ofNat 0xFFFD else Char.ofNat unit

/-- The character that a pair of halves stands for. -/
def pairChar (high low : Nat) : Char :=
  Char.ofNat (0x10000 + (high - 0xD800) * 0x400 + (low - 0xDC00))

def shortEscape? : Char → Option Char
  | '"' => some '"'
  | '\\' => some '\\'
  | '/' => some '/'
  | 'b' => some '\x08'
  | 'f' => some '\x0c'
  | 'n' => some '\n'
  | 'r' => some '\r'
  | 't' => some '\t'
  | _ => none

def readText : List Char → Reading (List Char)
  | [] => .error .malformed
  | '"' :: rest => .ok ([], rest)
  | '\\' :: 'u' :: a :: b :: c :: d :: '\\' :: 'u' :: a' :: b' :: c' :: d' :: rest =>
    match codeUnit? a b c d, codeUnit? a' b' c' d' with
    | some high, some low =>
      if isHighHalf high && isLowHalf low then
        (readText rest).map fun (s, r) => (pairChar high low :: s, r)
      else
        (readText ('\\' :: 'u' :: a' :: b' :: c' :: d' :: rest)).map
          fun (s, r) => (unitChar high :: s, r)
    | some unit, none =>
      (readText ('\\' :: 'u' :: a' :: b' :: c' :: d' :: rest)).map
        fun (s, r) => (unitChar unit :: s, r)
    | none, _ => .error .malformed
  | '\\' :: 'u' :: a :: b :: c :: d :: rest =>
    match codeUnit? a b c d with
    | some unit => (readText rest).map fun (s, r) => (unitChar unit :: s, r)
    | none => .error .malformed
  | '\\' :: e :: rest =>
    match shortEscape? e with
    | some c => (readText rest).map fun (s, r) => (c :: s, r)
    | none => .error .malformed
  | c :: rest =>
    if c = '\\' ∨ c.toNat < 0x20 then .error .malformed
    else (readText rest).map fun (s, r) => (c :: s, r)

/-! ## Numbers -/

def takeDigits (cs : List Char) : List Char × List Char := cs.span Char.isDigit

/-- The fraction's digits, when a point with digits follows. -/
def takeFraction : List Char → List Char × List Char
  | '.' :: rest =>
    let (digits, after) := takeDigits rest
    if digits.isEmpty then ([], '.' :: rest) else (digits, after)
  | cs => ([], cs)

/-- The exponent's value, when an exponent with digits follows. -/
def takeExponent (cs : List Char) : Option Int × List Char :=
  match cs with
  | e :: rest =>
    if e = 'e' ∨ e = 'E' then
      let (negative, body) := Number.splitSign rest
      let (digits, after) := takeDigits body
      if digits.isEmpty then (none, cs)
      else
        let size := Number.ofDigits (digits.map fun c => c.toNat - 48)
        (some (Number.withSign negative size), after)
    else (none, cs)
  | [] => (none, [])

def readMagnitude (negative : Bool) (cs : List Char) : Reading Json :=
  let (whole, rest) := match cs with
    | '0' :: rest => (['0'], rest)
    | _ => takeDigits cs
  if whole.isEmpty then .error .malformed
  else
    let (fraction, rest) := takeFraction rest
    let (power, rest) := takeExponent rest
    let value (digits : List Char) : Nat := Number.ofDigits (digits.map fun c => c.toNat - 48)
    if fraction.isEmpty && power.isNone then
      if Number.digitLimit < whole.length then .error (.longNumeral (.tooLong whole.length))
      else .ok (.int (Number.withSign negative (value whole)), rest)
    else
      let number := Number.Binary64.ofDecimal negative (value (whole ++ fraction))
        (power.getD 0 - fraction.length)
      .ok (.float number, rest)

/-! ## Values -/

/-- The characters after a word that begins the list. -/
def afterWord? (word : String) (cs : List Char) : Option (List Char) :=
  if word.toList.isPrefixOf cs then some (cs.drop word.length) else none

def readScalar (cs : List Char) : Reading Json :=
  match cs with
  | '"' :: rest => (readText rest).map fun (s, r) => (.str (String.ofList s), r)
  | _ =>
    match afterWord? "null" cs, afterWord? "true" cs, afterWord? "false" cs, afterWord? "NaN" cs,
      afterWord? "Infinity" cs, afterWord? "-Infinity" cs with
    | some rest, _, _, _, _, _ => .ok (.null, rest)
    | _, some rest, _, _, _, _ => .ok (.bool true, rest)
    | _, _, some rest, _, _, _ => .ok (.bool false, rest)
    | _, _, _, some rest, _, _ => .ok (.float .nan, rest)
    | _, _, _, _, some rest, _ => .ok (.float (.infinite false), rest)
    | _, _, _, _, _, some rest => .ok (.float (.infinite true), rest)
    | _, _, _, _, _, _ =>
      match cs with
      | '-' :: rest => readMagnitude true rest
      | _ => readMagnitude false cs

mutual
def readValue : Nat → List Char → Reading Json
  | 0, _ => .error .malformed
  | fuel + 1, '[' :: rest =>
    match skipSpace rest with
    | ']' :: after => .ok (.arr [], after)
    | items => (readItems fuel items).map fun (vs, r) => (.arr vs, r)
  | fuel + 1, '\x7b' :: rest =>
    match skipSpace rest with
    | '\x7d' :: after => .ok (.obj [], after)
    | members => (readMembers fuel members []).map fun (ms, r) => (.obj ms, r)
  | _ + 1, cs => readScalar cs

/-- The items of a list, with the closing bracket. -/
def readItems : Nat → List Char → Reading (List Json)
  | 0, _ => .error .malformed
  | fuel + 1, cs =>
    match readValue fuel cs with
    | .error e => .error e
    | .ok (v, rest) =>
      match skipSpace rest with
      | ']' :: after => .ok ([v], after)
      | ',' :: after => (readItems fuel (skipSpace after)).map fun (vs, r) => (v :: vs, r)
      | _ => .error .malformed

/-- The members of an object after those already read, with the closing brace. -/
def readMembers : Nat → List Char → List (String × Json) → Reading (List (String × Json))
  | fuel + 1, '"' :: cs, known =>
    match readText cs with
    | .error e => .error e
    | .ok (key, rest) =>
      match skipSpace rest with
      | ':' :: rest =>
        match readValue fuel (skipSpace rest) with
        | .error e => .error e
        | .ok (v, rest) =>
          let known := putMember (String.ofList key) v known
          match skipSpace rest with
          | '\x7d' :: after => .ok (known, after)
          | ',' :: after => readMembers fuel (skipSpace after) known
          | _ => .error .malformed
      | _ => .error .malformed
  | _, _, _ => .error .malformed
end

def read (s : String) : Except ReadError Json := do
  let cs := s.toList
  let (v, rest) ← readValue (cs.length + 1) (skipSpace cs)
  if (skipSpace rest).isEmpty then pure v else .error .malformed

end Json
end StableLocator
