import Mathlib.Data.List.TakeDrop
import StableLocator.Proofs.Number.Digits
import StableLocator.Proofs.Selector.Remainder
import StableLocator.Proofs.Text.Characters
import StableLocator.Selector.Writer

/-!
# Reading written selectors

The parts that structural paths are made of are read back as the tokens that were meant:

* `readName?_escapeName` — any text, written as a name;
* `readToken?_type`, `readToken?_class`, `readToken?_position`, `readToken?_child` — the single
  tokens, each in front of characters that do not go on it.

The null character is lost on the way: a selector sees U+FFFD in its place, written as it is or by its
code.
-/

namespace StableLocator
namespace Selector

/-! ## Hexadecimal codes -/

/-- A hexadecimal digit is read as its value. -/
theorem hexValue?_digitChar {n : Nat} (h : n < 16) : hexValue? (Nat.digitChar n) = some n := by
  have hAll : ∀ n < 16, hexValue? (Nat.digitChar n) = some n := by decide
  exact hAll n h

/-- A last digit is added to sixteen times the number before it. -/
theorem hexNumber_concat (digits : List Char) (c : Char) :
    hexNumber (digits ++ [c]) = hexNumber digits * 16 + (hexValue? c).getD 0 := by
  simp [hexNumber]

/-- The hexadecimal digits of a number denote it, and all of them are such digits. -/
theorem hexNumber_toDigits (n : Nat) :
    hexNumber (Nat.toDigits 16 n) = n ∧ ∀ c ∈ Nat.toDigits 16 n, isHex c = true := by
  -- The number without its last digit is its sixteenth part.
  induction n using Nat.strongRecOn with
  | ind n ih =>
    by_cases hSmall : n < 16
    · rw [Nat.toDigits_of_lt_base hSmall]
      refine ⟨?_, fun c hc => ?_⟩
      · simp [hexNumber, hexValue?_digitChar hSmall]
      · rw [List.mem_singleton.1 hc, isHex, hexValue?_digitChar hSmall]
        rfl
    · have hLast : n % 16 < 16 := Nat.mod_lt n (by decide)
      obtain ⟨hNumber, hDigits⟩ := ih (n / 16) (by omega)
      rw [Nat.toDigits_of_base_le (by decide) (by omega)]
      refine ⟨?_, fun c hc => ?_⟩
      · rw [hexNumber_concat, hNumber, hexValue?_digitChar hLast, Option.getD_some]
        omega
      · rcases List.mem_append.1 hc with hc | hc
        · exact hDigits c hc
        · rw [List.mem_singleton.1 hc, isHex, hexValue?_digitChar hLast]
          rfl

theorem toNat_lt (c : Char) : c.toNat < 0x110000 := by
  rcases c.valid with h | h
  · exact Nat.lt_trans h (by decide)
  · exact h.2

/-- The code of a character is at most six hexadecimal digits long. -/
theorem length_toDigits_toNat (c : Char) : (Nat.toDigits 16 c.toNat).length ≤ 6 := by
  rw [Nat.length_toDigits_le_iff (by decide) (by decide)]
  exact Nat.lt_trans (toNat_lt c) (by decide)

/-- The escaped code of a character is read as the character that a selector sees. -/
theorem readEscape?_code (c : Char) (rest : List Char) :
    readEscape? (Nat.toDigits 16 c.toNat ++ ' ' :: rest) = some (some (seenChar c), rest) := by
  obtain ⟨hNumber, hDigits⟩ := hexNumber_toDigits c.toNat
  -- The blank ends the digits; six are the most that are taken, and no code has more.
  have hTake : escapeDigits (Nat.toDigits 16 c.toNat ++ ' ' :: rest) = Nat.toDigits 16 c.toNat := by
    rw [escapeDigits, List.takeWhile_append_of_pos hDigits, List.takeWhile_cons,
      if_neg (by decide), List.append_nil, List.take_of_length_le (length_toDigits_toNat c)]
  have hCode : readCode? c.toNat = some (some (seenChar c)) := by
    have hMax := toNat_lt c
    have hValid : c.toNat.isValidChar := c.valid
    by_cases hc : c.toNat = 0
    · rw [readCode?, if_pos hc, seenChar, if_pos hc]
    · rw [readCode?, if_neg hc, if_neg (by omega), if_pos hValid, Char.ofNat_toNat, seenChar,
        if_neg hc]
  have hSome : (Nat.toDigits 16 c.toNat).isEmpty = false := by
    simp [Nat.toDigits_ne_nil]
  simp only [readEscape?, hTake, hSome, hNumber, hCode]
  simp [skipOneBlank, Text.isMarkupBlank]

/-! ## Names -/

/-- No character comes first that could go on a name or a type. -/
def EndsPart (rest : List Char) : Prop := ∀ c ∈ rest.head?, c = '.' ∨ c = ':' ∨ c = ' '

/-- What ends a part begins with one of few signs. -/
theorem EndsPart.ne_cons {rest : List Char} (h : EndsPart rest) {c : Char}
    (hc : ¬(c = '.' ∨ c = ':' ∨ c = ' ')) (tail : List Char) : rest ≠ c :: tail := by
  rintro rfl
  exact hc (h c rfl)

theorem isNameChar_of_isLetterOrNumeral {c : Char} (h : Text.isLetterOrNumeral c = true) :
    isNameChar c = true := by
  rcases Text.isLetterOrNumeral_cases h with h | h
  · simp [isNameChar, h]
  · simp [isNameChar, h]

theorem nameTail_of_endsPart {rest : List Char} (h : EndsPart rest) : nameTail rest = ([], rest) := by
  cases rest with
  | nil => rw [nameTail]
  | cons c rest =>
    rw [nameTail]
    rcases h c rfl with rfl | rfl | rfl
    · rw [if_neg (by decide), if_neg (by decide)]
    · rw [if_neg (by decide), if_neg (by decide)]
    · rw [if_neg (by decide), if_neg (by decide)]

/-- A character of names goes on a name. -/
theorem nameTail_cons {c : Char} (h : isNameChar c = true) (rest : List Char) :
    nameTail (c :: rest) = (some c :: (nameTail rest).1, (nameTail rest).2) := by
  have hSlash : c ≠ '\\' := by
    rintro rfl
    revert h
    decide
  rw [nameTail, if_neg hSlash, if_pos h]

/-- Plain characters of a name are read as they are. -/
theorem nameTail_append {cs : List Char} (h : ∀ c ∈ cs, isNameChar c = true) (rest : List Char) :
    nameTail (cs ++ rest) = (cs.map some ++ (nameTail rest).1, (nameTail rest).2) := by
  induction cs with
  | nil => rfl
  | cons c cs ih =>
    rw [List.cons_append, nameTail_cons (h c List.mem_cons_self),
      ih fun d hd => h d (List.mem_cons_of_mem _ hd)]
    rfl

/-- An escaped code goes on a name with its character. -/
theorem nameTail_codeEscape (c : Char) (rest : List Char) :
    nameTail (codeEscape c ++ rest) =
      (some (seenChar c) :: (nameTail rest).1, (nameTail rest).2) := by
  have hEscape := readEscape?_code c rest
  have hSplit : codeEscape c ++ rest = '\\' :: (Nat.toDigits 16 c.toNat ++ ' ' :: rest) := by
    simp [codeEscape]
  rw [hSplit, nameTail, if_pos rfl]
  split
  · rename_i hSome
    rw [hEscape, Option.some.injEq, Prod.mk.injEq] at hSome
    obtain ⟨rfl, rfl⟩ := hSome
    rfl
  · rename_i hNone
    rw [hEscape] at hNone
    cases hNone

theorem seenChar_eq_self {c : Char} (h : c.toNat ≠ 0) : seenChar c = c := if_neg h

/-- A selector sees the characters of a name as they are. -/
theorem seenChar_of_isNameChar {c : Char} (h : isNameChar c = true) : seenChar c = c := by
  refine seenChar_eq_self fun hZero => ?_
  have hc : c = Char.ofNat 0 := by rw [← hZero, Char.ofNat_toNat]
  rw [hc] at h
  revert h
  decide

/-- A written character of a name is read as the character that a selector sees. -/
theorem nameTail_escaped (c : Char) (begins : Bool) (rest : List Char) :
    nameTail (escapedNameChar begins c ++ rest) =
      (some (seenChar c) :: (nameTail rest).1, (nameTail rest).2) := by
  have hPlain (hName : isNameChar c = true) : nameTail ([c] ++ rest) =
      (some (seenChar c) :: (nameTail rest).1, (nameTail rest).2) := by
    rw [seenChar_of_isNameChar hName]
    exact nameTail_cons hName rest
  unfold escapedNameChar
  split
  · rename_i hLetter
    exact hPlain (isNameChar_of_isLetterOrNumeral (Bool.and_eq_true_iff.1 hLetter).1)
  · split
    · rename_i hMark
      refine hPlain ?_
      rcases hMark with rfl | rfl
      · decide
      · decide
    · exact nameTail_codeEscape c rest

/-- Escaped characters go on a name with the characters that they stand for. -/
theorem nameTail_flatMap (cs : List Char) {rest : List Char} (hEnd : EndsPart rest) :
    nameTail (cs.flatMap (escapedNameChar false) ++ rest) = ((cs.map seenChar).map some, rest) := by
  induction cs with
  | nil => exact nameTail_of_endsPart hEnd
  | cons c cs ih =>
    rw [List.flatMap_cons, List.append_assoc, nameTail_escaped, ih]
    rfl

/-- A written character begins a name, unless it is a dash. -/
theorem startsName_escaped {c : Char} (hDash : c ≠ '-') (rest : List Char) :
    startsName (escapedNameChar true c ++ rest) = true := by
  unfold escapedNameChar
  split
  · rename_i hPlain
    rw [Bool.true_and, Bool.and_eq_true, Bool.not_eq_true'] at hPlain
    obtain ⟨hLetter, hDigit⟩ := hPlain
    have hStart : isNameStart c = true := by
      rcases Text.isLetterOrNumeral_cases hLetter with h | h
      · rw [Char.isAlphanum, Bool.or_eq_true] at h
        rcases h with h | h
        · simp [isNameStart, h]
        · -- An ASCII digit is escaped where the name begins.
          have hNine : c.toNat ≤ 57 := (Text.isDigit_iff.1 h).2
          rw [Text.isDigit, if_pos (by omega), h] at hDigit
          cases hDigit
      · simp [isNameStart, h]
    have hSlash : c ≠ '\\' := by
      rintro rfl
      revert hStart
      decide
    rw [List.singleton_append, startsName, if_neg hSlash, hStart]
  · split
    · rename_i hMark
      rcases hMark with rfl | rfl
      · exact absurd rfl hDash
      · rfl
    · have hSplit : codeEscape c ++ rest = '\\' :: (Nat.toDigits 16 c.toNat ++ ' ' :: rest) := by
        simp [codeEscape]
      rw [hSplit, startsName, if_pos rfl, readEscape?_code]
      rfl

theorem ofChars_some (cs : List Char) : Spelling.ofChars (cs.map some) = .text (String.ofList cs) := by
  have hAll : (cs.map some).mapM id = some cs := by
    induction cs with
    | nil => rfl
    | cons c cs ih => simp [List.mapM_cons, ih]
  rw [Spelling.ofChars, hAll]

/-- A name begins here, after at most one dash or with two. -/
def BeginsName : List Char → Prop
  | '-' :: rest => rest.head? = some '-' ∨ startsName rest = true
  | cs => startsName cs = true

/-- A name is read with all characters that may go on it. -/
theorem readName?_of_beginsName {cs : List Char} (h : BeginsName cs) :
    readName? cs = some (Spelling.ofChars (nameTail cs).1, (nameTail cs).2) := by
  have hDash (rest : List Char) := nameTail_cons (c := '-') (by decide) rest
  -- Two dashes, one dash, or none.
  unfold readName?
  split
  · rw [hDash, hDash]
  · rename_i rest hNext
    have hStart : startsName rest = true := by
      rcases h with h | h
      · cases rest with
        | nil => cases h
        | cons c rest =>
          rw [List.head?_cons, Option.some.injEq] at h
          exact absurd (h ▸ rfl) (hNext rest)
      · exact h
    rw [if_pos hStart, hDash]
  · rename_i hOther
    have hStart : startsName cs = true := by
      unfold BeginsName at h
      split at h
      · rename_i rest _
        exact absurd rfl (hOther rest)
      · exact h
    rw [if_pos hStart]

/-- Where a name is read, it is read with all characters that may go on it. -/
theorem left_of_readName? {cs left : List Char} {name : Spelling}
    (h : readName? cs = some (name, left)) : left = (nameTail cs).2 := by
  have hDash (rest : List Char) := nameTail_cons (c := '-') (by decide) rest
  unfold readName? at h
  split at h
  · cases h
    rw [hDash, hDash]
  · split at h
    · cases h
      rw [hDash]
    · cases h
  · split at h
    · cases h
      rfl
    · cases h

/-- An escaped text is read as the name that it stands for. -/
theorem nameTail_escapeNameChars (cs : List Char) {rest : List Char} (hEnd : EndsPart rest) :
    nameTail (escapeNameChars cs ++ rest) = ((cs.map seenChar).map some, rest) := by
  unfold escapeNameChars
  split
  · exact nameTail_of_endsPart hEnd
  · rename_i c more
    rw [List.append_assoc, List.cons_append, nameTail_cons (by decide), nameTail_escaped,
      nameTail_flatMap more hEnd]
    rfl
  · rename_i c more _
    rw [List.append_assoc, nameTail_escaped, nameTail_flatMap more hEnd]
    rfl

/-- An escaped text begins a name, if it is neither empty nor a dash alone. -/
theorem beginsName_escapeNameChars {cs : List Char} (hSome : cs ≠ []) (hDash : cs ≠ ['-'])
    (rest : List Char) :
    BeginsName (escapeNameChars cs ++ rest) := by
  unfold escapeNameChars
  split
  · exact absurd rfl hSome
  · -- After a dash the next character is escaped as if it were the first.
    rename_i c more
    rw [List.append_assoc, List.cons_append]
    by_cases hSecond : c = '-'
    · subst hSecond
      exact .inl rfl
    · exact .inr (startsName_escaped hSecond _)
  · rename_i c more hMore
    have hFirst : c ≠ '-' := by
      rintro rfl
      cases more with
      | nil => exact hDash rfl
      | cons d more => exact hMore d more rfl rfl
    have hStart := startsName_escaped hFirst (more.flatMap (escapedNameChar false) ++ rest)
    rw [List.append_assoc]
    unfold BeginsName
    split
    · rename_i hSplit
      rw [hSplit, startsName, if_neg (by decide)] at hStart
      cases hStart
    · exact hStart

def seenText (s : String) : String := String.ofList (s.toList.map seenChar)

/-- Without null characters a text is seen as it is. -/
theorem seenText_eq_self {s : String} (h : ∀ c ∈ s.toList, c.toNat ≠ 0) : seenText s = s := by
  rw [seenText, List.map_congr_left fun c hc => seenChar_eq_self (h c hc), List.map_id',
    String.ofList_toList]

/-- A text that is written as a name is read as a selector sees it, unless it is empty or a single
dash. -/
theorem readName?_escapeName {s : String} (hSome : s ≠ "") (hDash : s ≠ "-") {rest : List Char}
    (hEnd : EndsPart rest) :
    readName? ((escapeName s).toList ++ rest) = some (.text (seenText s), rest) := by
  have hBegins : BeginsName (escapeNameChars s.toList ++ rest) := by
    refine beginsName_escapeNameChars ?_ ?_ rest
    · simpa using hSome
    · intro hChars
      exact hDash (String.toList_inj.1 hChars)
  rw [escapeName, String.toList_ofList, readName?_of_beginsName hBegins,
    nameTail_escapeNameChars _ hEnd, ofChars_some, seenText]

/-- A plain name begins with an ASCII letter; letters, digits, dashes and underscores follow. -/
def IsPlainTag (name : String) : Prop :=
  ∃ c more, name.toList = c :: more ∧ c.isAlpha = true ∧ ∀ d ∈ more, isPlainChar d = true

instance (name : String) : Decidable (IsPlainTag name) :=
  decidable_of_iff (name.toList.head?.any Char.isAlpha ∧ name.toList.tail.all isPlainChar) <| by
    unfold IsPlainTag
    cases name.toList with
    | nil => simp
    | cons c more => simp

theorem isNameChar_of_isPlainChar {c : Char} (h : isPlainChar c = true) : isNameChar c = true := by
  rw [isNameChar, Bool.or_eq_true]
  exact .inl (by simpa [isPlainChar, Bool.or_assoc, Bool.or_comm (c == '_')] using h)

theorem isNameChar_of_isAlpha {c : Char} (h : c.isAlpha = true) : isNameChar c = true := by
  simp [isNameChar, Char.isAlphanum, h]

/-- A bare name begins with an ASCII letter; any characters of names follow. -/
def IsBareName (name : String) : Prop :=
  ∃ c more, name.toList = c :: more ∧ c.isAlpha = true ∧ ∀ d ∈ more, isNameChar d = true

instance (name : String) : Decidable (IsBareName name) :=
  decidable_of_iff (name.toList.head?.any Char.isAlpha ∧ name.toList.tail.all isNameChar) <| by
    unfold IsBareName
    cases name.toList with
    | nil => simp
    | cons c more => simp

theorem IsPlainTag.isBareName {name : String} (h : IsPlainTag name) : IsBareName name := by
  obtain ⟨c, more, hChars, hFirst, hMore⟩ := h
  exact ⟨c, more, hChars, hFirst, fun d hd => isNameChar_of_isPlainChar (hMore d hd)⟩

theorem IsBareName.isNameChar {name : String} (h : IsBareName name) :
    ∀ c ∈ name.toList, isNameChar c = true := by
  obtain ⟨c, more, hChars, hFirst, hMore⟩ := h
  rw [hChars]
  exact List.forall_mem_cons.2 ⟨isNameChar_of_isAlpha hFirst, hMore⟩

/-- A bare name is read as it is. -/
theorem readName?_bare {name : String} (hBare : IsBareName name) {rest : List Char}
    (hEnd : (nameTail rest) = ([], rest)) :
    readName? (name.toList ++ rest) = some (.text name, rest) := by
  have hName := hBare.isNameChar
  obtain ⟨c, more, hChars, hFirst, _⟩ := hBare
  have hLetter : isNameStart c = true := by simp [isNameStart, hFirst]
  rw [hChars] at hName
  have hBegins : BeginsName (c :: more ++ rest) := by
    unfold BeginsName
    split
    · rename_i hSplit
      exact absurd (List.cons.inj hSplit).1 (Text.ne_of_isAlpha hFirst (by decide))
    · have hSlash : c ≠ '\\' := Text.ne_of_isAlpha hFirst (by decide)
      rw [List.cons_append, startsName, if_neg hSlash, hLetter]
  rw [hChars, readName?_of_beginsName hBegins, nameTail_append hName, hEnd, List.append_nil,
    ofChars_some, ← hChars, String.ofList_toList]

/-! ## Tokens -/

theorem isMarkupBlank_of_isAlpha {c : Char} (h : c.isAlpha = true) :
    Text.isMarkupBlank c = false := by
  rw [Bool.eq_false_iff]
  intro hBlank
  simp only [Text.isMarkupBlank, Bool.or_eq_true, beq_iff_eq] at hBlank
  rcases hBlank with (((hEqual | hEqual) | hEqual) | hEqual) | hEqual
  all_goals exact Text.ne_of_isAlpha h (by decide) hEqual

/-- Nothing is skipped before a character that is no blank and no slash. -/
theorem skipBlanks_cons {c : Char} (hNone : ∀ d ∈ [' ', '\t', '\n', '\x0c', '\r', '/'], c ≠ d)
    (rest : List Char) : skipBlanks (c :: rest) = c :: rest := by
  have hBlank : Text.isMarkupBlank c = false := by
    simp [Text.isMarkupBlank, hNone ' ' (by decide), hNone '\t' (by decide),
      hNone '\n' (by decide), hNone '\x0c' (by decide), hNone '\r' (by decide)]
  rw [skipBlanks]
  · rw [if_neg (by simp [hBlank])]
  · intro _ hSlash
    exact absurd hSlash (hNone '/' (by decide))

theorem skipBlanks_of_isAlpha {c : Char} (h : c.isAlpha = true) (rest : List Char) :
    skipBlanks (c :: rest) = c :: rest := by
  have hNone : [' ', '\t', '\n', '\x0c', '\r', '/'].all (fun d => !d.isAlpha) = true := by decide
  refine skipBlanks_cons (fun d hd => Text.ne_of_isAlpha h ?_) rest
  simpa using List.all_eq_true.1 hNone d hd

theorem skipBlanks_of_isDigit {c : Char} (h : c.isDigit = true) (rest : List Char) :
    skipBlanks (c :: rest) = c :: rest := by
  have hNone : [' ', '\t', '\n', '\x0c', '\r', '/'].all (fun d => !d.isDigit) = true := by decide
  refine skipBlanks_cons (fun d hd => Text.ne_of_isDigit h ?_) rest
  simpa using List.all_eq_true.1 hNone d hd

/-- Where no sign of another token comes first, a type or a combinator is read. -/
theorem readToken?_of_plain {c : Char} {rest : List Char}
    (hSigns : ∀ sign ∈ [':', '&', '#', '.', '['], c ≠ sign)
    (hClose : (skipBlanks (c :: rest)).head? ≠ some ')') :
    readToken? (c :: rest) =
      (readType? (c :: rest) <|>
        (readCombinator? (c :: rest)).map fun (found, after) => (.combinator found, after)) := by
  unfold readToken?
  split
  · rename_i hSkip
    rw [hSkip] at hClose
    exact absurd rfl hClose
  · split
    all_goals first
      | rename_i hFirst
        exact absurd (List.cons.inj hFirst).1 (hSigns _ (by decide))
      | rfl

/-- A bare tag is read as the type, in front of what goes on no name and is no bar. -/
theorem readToken?_type {name : String} (hBare : IsBareName name) {rest : List Char}
    (hEnd : nameTail rest = ([], rest)) (hBar : ∀ tail, rest ≠ '|' :: tail) :
    readToken? (name.toList ++ rest) = some (.type name, rest) := by
  have hName := readName?_bare hBare hEnd
  have hSpaced := readSpacedType?_eq_none (.text name) hBar
  obtain ⟨c, more, hChars, hFirst, _⟩ := hBare
  rw [hChars, List.cons_append] at hName ⊢
  have hTypeName : readTypeName? (c :: (more ++ rest)) = some (.text name, rest) := by
    unfold readTypeName?
    split
    · rename_i hStar
      exact absurd (List.cons.inj hStar).1 (Text.ne_of_isAlpha hFirst (by decide))
    · exact hName
  have hType : readType? (c :: (more ++ rest)) = some (.type name, rest) := by
    rw [readType?, hTypeName]
    simp only [hSpaced]
    rfl
  have hSigns : ∀ sign ∈ [':', '&', '#', '.', '['], c ≠ sign := by
    have hNone : [':', '&', '#', '.', '['].all (fun sign => !sign.isAlpha) = true := by decide
    intro sign hSign
    refine Text.ne_of_isAlpha hFirst ?_
    simpa using List.all_eq_true.1 hNone sign hSign
  have hClose : (skipBlanks (c :: (more ++ rest))).head? ≠ some ')' := by
    rw [skipBlanks_of_isAlpha hFirst, List.head?_cons, Ne, Option.some.injEq]
    exact Text.ne_of_isAlpha hFirst (by decide)
  rw [readToken?_of_plain hSigns hClose, hType]
  rfl

/-- A class is read as the token that a selector sees. -/
theorem readToken?_class {token : String} (hSome : token ≠ "") (hDash : token ≠ "-")
    {rest : List Char} (hEnd : EndsPart rest) :
    readToken? ('.' :: (escapeName token).toList ++ rest) =
      some (.token (.text (seenText token)), rest) := by
  have hName := readName?_escapeName hSome hDash hEnd
  rw [List.cons_append, readToken?, skipBlanks_cons (by simp)]
  simp only [hName]
  rfl

/-- The sign between a parent and a child is read as the combinator, with the blanks around it. -/
theorem readToken?_childSign {front rest : List Char} (hFront : front = [] ∨ front = [' ']) :
    readToken? (front ++ '>' :: rest) = some (.combinator .child, skipBlanks rest) := by
  have hSkip : skipBlanks (front ++ '>' :: rest) = '>' :: rest := by
    have hSign : skipBlanks ('>' :: rest) = '>' :: rest := skipBlanks_cons (by simp) rest
    rcases hFront with rfl | rfl
    · exact hSign
    · exact (skipBlanks_blank (by decide) ('>' :: rest)).trans hSign
  -- Neither a blank nor the sign is part of a type, so that a combinator is tried.
  have hType : readType? (front ++ '>' :: rest) = none := by
    rcases hFront with rfl | rfl
    · rfl
    · rfl
  have hCombinator : readCombinator? (front ++ '>' :: rest) = some (.child, skipBlanks rest) := by
    simp only [readCombinator?, hSkip]
    rfl
  have hClose : (skipBlanks (front ++ '>' :: rest)).head? ≠ some ')' := by
    rw [hSkip, List.head?_cons]
    decide
  have hPlain : readToken? (front ++ '>' :: rest) =
      (readType? (front ++ '>' :: rest) <|>
        (readCombinator? (front ++ '>' :: rest)).map fun (found, after) =>
          (.combinator found, after)) := by
    rcases hFront with rfl | rfl
    · exact readToken?_of_plain (c := '>') (by simp) hClose
    · exact readToken?_of_plain (c := ' ') (by simp) hClose
  rw [hPlain, hType, hCombinator]
  rfl

/-- The sign of a child is read with the blanks around it. -/
theorem readToken?_child {c : Char} (hFirst : c.isAlpha = true) (rest : List Char) :
    readToken? (' ' :: '>' :: ' ' :: c :: rest) = some (.combinator .child, c :: rest) := by
  have hAfter : skipBlanks (' ' :: c :: rest) = c :: rest :=
    (skipBlanks_blank (by decide) (c :: rest)).trans (skipBlanks_of_isAlpha hFirst rest)
  have hRead : readToken? (' ' :: '>' :: ' ' :: c :: rest) =
      some (.combinator .child, skipBlanks (' ' :: c :: rest)) := readToken?_childSign (.inr rfl)
  rwa [hAfter] at hRead

/-- The number is written with as many digits as a number may have. -/
def FewDigits (k : Nat) : Prop := (Nat.toDigits 10 k).length ≤ Number.digitLimit

instance (k : Nat) : Decidable (FewDigits k) :=
  inferInstanceAs (Decidable ((Nat.toDigits 10 k).length ≤ Number.digitLimit))

/-- Decimal digits denote their number, unless there are too many. -/
theorem numeral?_toDigits (k : Nat) :
    numeral? (Nat.toDigits 10 k) = if FewDigits k then some k else none := by
  have hSome : (Nat.toDigits 10 k).isEmpty = false := by simp [Nat.toDigits_ne_nil]
  rw [numeral?, hSome, Number.ofDigits_toDigits, Bool.false_or]
  by_cases hFew : FewDigits k
  · rw [if_pos hFew, if_neg]
    simpa [FewDigits] using hFew
  · rw [if_neg hFew, if_pos]
    simpa [FewDigits] using hFew

/-- A text that begins with a digit does not begin with a word. -/
theorem lowerAscii_take_ne {d c : Char} (more : List Char) {cs : List Char} (text : String)
    (hDigit : d.isDigit = true) (hText : text.toList = c :: cs) (hc : c.isDigit = false) :
    Text.lowerAscii (String.ofList ((d :: more).take text.length)) ≠ text := by
  have hLower : d.toLower = d := Text.toLower_eq_self (Text.isUpper_of_isDigit hDigit)
  have hLength : text.length = cs.length + 1 := by
    rw [← String.length_toList, hText, List.length_cons]
  intro hEqual
  have hLists := congrArg String.toList hEqual
  rw [Text.lowerAscii, String.toList_ofList, String.toList_ofList, hText, hLength,
    List.take_succ_cons, List.map_cons, List.cons.injEq, hLower] at hLists
  exact Text.ne_of_isDigit hDigit hc hLists.1

/-- Decimal digits before a bracket are read as a single number, unless there are too many. -/
theorem readProgression?_toDigits (k : Nat) (rest : List Char) :
    readProgression? (Nat.toDigits 10 k ++ ')' :: rest) =
      if FewDigits k then some (.only k, ')' :: rest) else none := by
  have hDigits : ∀ c ∈ Nat.toDigits 10 k, c.isDigit = true := fun _ hc =>
    Number.isDigit_of_mem_toDigits hc
  have hSpan : (Nat.toDigits 10 k ++ ')' :: rest).span Char.isDigit =
      (Nat.toDigits 10 k, ')' :: rest) := Number.span_toDigits k rfl
  have hNumeral := numeral?_toDigits k
  generalize hChars : Nat.toDigits 10 k = digits at hDigits hSpan hNumeral ⊢
  cases digits with
  | nil => exact absurd hChars Nat.toDigits_ne_nil
  | cons d more =>
    have hDigit : d.isDigit = true := hDigits d List.mem_cons_self
    rw [List.cons_append] at hSpan ⊢
    -- The two words for progressions are tried before the number.
    have hEven := lowerAscii_take_ne (more ++ ')' :: rest) "even" hDigit rfl (by decide)
    have hOdd := lowerAscii_take_ne (more ++ ')' :: rest) "odd" hDigit rfl (by decide)
    simp only [readProgression?, beq_false_of_ne hEven, beq_false_of_ne hOdd,
      Number.splitSign_of_isDigit hDigit, hSpan, hNumeral]
    by_cases hFew : FewDigits k
    · rw [if_pos hFew, if_pos hFew]
      rfl
    · rw [if_neg hFew, if_neg hFew]
      rfl

def positionChars (k : Nat) : List Char := ":nth-of-type(".toList ++ (Nat.toDigits 10 k ++ [')'])

/-- A position is read as the count, unless it has too many digits. -/
theorem readToken?_position (k : Nat) (rest : List Char) :
    readToken? (positionChars k ++ rest) =
      if FewDigits k then some (.nth false true (.only k), rest) else none := by
  have hPlain : IsPlainTag "nth-of-type" := by decide
  have hBracket (body : List Char) : nameTail ('(' :: body) = ([], '(' :: body) := by
    rw [nameTail, if_neg (by decide), if_neg (by decide)]
  have hName (body : List Char) :
      readName? ("nth-of-type".toList ++ '(' :: body) = some (.text "nth-of-type", '(' :: body) :=
    readName?_bare hPlain.isBareName (hBracket body)
  have hCount : readCounting? false true (Nat.toDigits 10 k ++ ')' :: rest) =
      if FewDigits k then some (.nth false true (.only k), rest) else none := by
    have hSkip : skipBlanks (Nat.toDigits 10 k ++ ')' :: rest) =
        Nat.toDigits 10 k ++ ')' :: rest := by
      cases hChars : Nat.toDigits 10 k with
      | nil => exact absurd hChars Nat.toDigits_ne_nil
      | cons d more =>
        have hDigit : d.isDigit = true := Number.isDigit_of_mem_toDigits (hChars ▸ List.mem_cons_self)
        exact skipBlanks_of_isDigit hDigit _
    rw [readCounting?, hSkip, readProgression?_toDigits]
    split
    · simp only [Option.bind_eq_bind, Option.bind_some, skipBlanks_cons (c := ')') (by simp)]
      rfl
    · rfl
  have hSplit : positionChars k ++ rest =
      ':' :: ("nth-of-type".toList ++ '(' :: (Nat.toDigits 10 k ++ ')' :: rest)) := by
    have hClose : Nat.toDigits 10 k ++ [')'] ++ rest = Nat.toDigits 10 k ++ ')' :: rest := by simp
    rw [← hClose]
    rfl
  have hState : readState? ("nth-of-type".toList ++ '(' :: (Nat.toDigits 10 k ++ ')' :: rest)) =
      if FewDigits k then some (.nth false true (.only k), rest) else none := by
    have hCounting : countingOf? (Text.lowerAscii "nth-of-type") = some (false, true) := by decide
    rw [readState?, hName]
    simp only [Option.bind_eq_bind, Option.bind_some, Spelling.text?, Option.map_some, hCounting,
      hCount]
  rw [hSplit, readToken?, skipBlanks_cons (by simp)]
  exact hState

end Selector
end StableLocator
