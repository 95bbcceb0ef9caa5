import StableLocator.Text.Blank

/-!
# Names in selectors

A name begins with a letter, an underscore or a character outside ASCII, after at most one dash, or
with two dashes. A backslash escapes any other character, or gives its code in hexadecimal, ended
by a blank. The code may be that of half a surrogate pair, which is no character: what it is a part
of agrees with nothing on a page.
-/

namespace StableLocator
namespace Selector

/-- What a name or a value spells: a text, or nothing that a page can hold. -/
inductive Spelling
  | text (s : String)
  | unheld
  deriving DecidableEq, Repr

/-- The spelling of characters, of which some may be none. -/
def Spelling.ofChars (cs : List (Option Char)) : Spelling :=
  match cs.mapM id with
  | some found => .text (String.ofList found)
  | none => .unheld

def Spelling.text? : Spelling → Option String
  | .text s => some s
  | .unheld => none

def isNameStart (c : Char) : Bool := c.isAlpha || c == '_' || 0xA0 ≤ c.toNat

def isNameChar (c : Char) : Bool := c.isAlphanum || c == '_' || c == '-' || 0xA0 ≤ c.toNat

def hexValue? (c : Char) : Option Nat :=
  if '0' ≤ c ∧ c ≤ '9' then some (c.toNat - 48)
  else if 'a' ≤ c ∧ c ≤ 'f' then some (c.toNat - 87)
  else if 'A' ≤ c ∧ c ≤ 'F' then some (c.toNat - 55)
  else none

def isHex (c : Char) : Bool := (hexValue? c).isSome

def hexNumber (digits : List Char) : Nat :=
  digits.foldl (fun n c => n * 16 + (hexValue? c).getD 0) 0

/-- The characters after one blank, if a blank is first; a carriage return and line feed are one. -/
def skipOneBlank : List Char → List Char
  | '\r' :: '\n' :: rest => rest
  | c :: rest => if Text.isMarkupBlank c then rest else c :: rest
  | [] => []

/-- What an escaped code stands for: a character, or none for half a surrogate pair. Zero stands for
U+FFFD. A code beyond the last of all is refused. -/
def readCode? (n : Nat) : Option (Option Char) :=
  if n = 0 then some (some (Char.ofNat 0xFFFD))
  else if 0x10FFFF < n then none
  else if n.isValidChar then some (some (Char.ofNat n))
  else some none

/-- The hexadecimal digits of an escape: six at most. -/
def escapeDigits (cs : List Char) : List Char := (cs.takeWhile isHex).take 6

/-- The escaped character after a backslash, and the characters after it. At the end of the text
the backslash stands for U+FFFD. -/
def readEscape? (cs : List Char) : Option (Option Char × List Char) :=
  let digits := escapeDigits cs
  if digits.isEmpty then
    match cs with
    | [] => some (some (Char.ofNat 0xFFFD), [])
    | ['\n'] => some (some (Char.ofNat 0xFFFD), ['\n'])
    | c :: rest => if c = '\n' ∨ c = '\r' ∨ c = '\x0c' then none else some (c, rest)
  else
    (readCode? (hexNumber digits)).map fun c => (c, skipOneBlank (cs.drop digits.length))

theorem length_skipOneBlank_le (cs : List Char) : (skipOneBlank cs).length ≤ cs.length := by
  unfold skipOneBlank
  split
  · simp only [List.length_cons]; omega
  · split <;> simp
  · simp

theorem length_le_of_readEscape? {cs rest : List Char} {c : Option Char}
    (h : readEscape? cs = some (c, rest)) : rest.length ≤ cs.length := by
  unfold readEscape? at h
  simp only at h
  split at h
  · split at h
    · simp_all
    · simp_all
    · split at h
      · simp at h
      · simp only [Option.some.injEq, Prod.mk.injEq] at h
        simp [← h.2]
  · simp only [Option.map_eq_some_iff, Prod.mk.injEq] at h
    obtain ⟨_, _, _, rfl⟩ := h
    refine Nat.le_trans (length_skipOneBlank_le _) ?_
    simp

def nameTail : List Char → List (Option Char) × List Char
  | [] => ([], [])
  | c :: rest =>
    if c = '\\' then
      match h : readEscape? rest with
      | some (e, after) =>
        have := length_le_of_readEscape? h
        let (more, left) := nameTail after
        (e :: more, left)
      | none => ([], c :: rest)
    else if isNameChar c then
      let (more, left) := nameTail rest
      (some c :: more, left)
    else ([], c :: rest)
  termination_by cs => cs.length

/-- A name begins here, apart from dashes. -/
def startsName : List Char → Bool
  | [] => false
  | c :: rest => if c = '\\' then (readEscape? rest).isSome else isNameStart c

def readName? : List Char → Option (Spelling × List Char)
  | '-' :: '-' :: rest =>
    let (more, left) := nameTail rest
    some (Spelling.ofChars (some '-' :: some '-' :: more), left)
  | '-' :: rest =>
    if startsName rest then
      let (more, left) := nameTail rest
      some (Spelling.ofChars (some '-' :: more), left)
    else none
  | cs =>
    if startsName cs then
      let (more, left) := nameTail cs
      some (Spelling.ofChars more, left)
    else none

/-! ## Quoted values -/

/-- The characters of a quoted value with its escapes, and those after the closing quote. A bare
line end is refused. -/
def takeQuoted? (quote : Char) : List Char → Option (List Char × List Char)
  | [] => none
  | '\\' :: '\r' :: '\n' :: rest =>
    (takeQuoted? quote rest).map fun (s, r) => ('\\' :: '\r' :: '\n' :: s, r)
  | '\\' :: c :: rest => (takeQuoted? quote rest).map fun (s, r) => ('\\' :: c :: s, r)
  | c :: rest =>
    if c = quote then some ([], rest)
    else if c = '\\' ∨ c = '\n' ∨ c = '\r' ∨ c = '\x0c' then none
    else (takeQuoted? quote rest).map fun (s, r) => (c :: s, r)

/-- A quoted value with its escapes replaced; an escaped line end stands for nothing, but a
backslash before a last line feed for U+FFFD. `fuel` counts the characters. None if a code is beyond
the last of all. -/
def unescapeQuoted? : (fuel : Nat) → List Char → Option (List (Option Char))
  | 0, cs => some (cs.map some)
  | _, [] => some []
  | fuel + 1, '\\' :: rest =>
    let digits := escapeDigits rest
    if digits.isEmpty then
      match rest with
      | '\r' :: '\n' :: after => unescapeQuoted? fuel after
      | ['\n'] => some [some (Char.ofNat 0xFFFD), some '\n']
      | c :: after =>
        if c = '\n' ∨ c = '\r' ∨ c = '\x0c' then unescapeQuoted? fuel after
        else (unescapeQuoted? fuel after).map (some c :: ·)
      | [] => some [some (Char.ofNat 0xFFFD)]
    else do
      let c ← readCode? (hexNumber digits)
      let more ← unescapeQuoted? fuel (skipOneBlank (rest.drop digits.length))
      pure (c :: more)
  | fuel + 1, c :: rest => (unescapeQuoted? fuel rest).map (some c :: ·)

/-- The value at the start, quoted or a name, and the characters after it. -/
def readValue? (cs : List Char) : Option (Spelling × List Char) :=
  let quotedValue (quote : Char) (body : List Char) : Option (Spelling × List Char) := do
    let (raw, rest) ← takeQuoted? quote body
    let value ← unescapeQuoted? raw.length raw
    pure (Spelling.ofChars value, rest)
  match cs with
  | '"' :: body => quotedValue '"' body
  | '\'' :: body => quotedValue '\'' body
  | _ => readName? cs

end Selector
end StableLocator
