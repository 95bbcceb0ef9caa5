import StableLocator.Json.Reader
import StableLocator.Json.Writer
import StableLocator.Proofs.Number.Digits
import StableLocator.Proofs.Outcome
import StableLocator.Proofs.Text.Characters

/-!
# Reading written JSON

An object whose values are truth values, texts and natural numbers is read as it was written, and what
is written of it has no carriage returns.

* `codeUnit?_hexPadded` — code units and their four digits;
* `Denotes`, `denotes_escapeChar`, `readText_append` — the characters of a text;
* `Simple`, `readValue_compact` — single values, in front of characters that do not go on them;
* `readMembers_written`, `read_sheet` — members and objects;
* `not_mem_sheet` — no carriage returns.
-/

namespace StableLocator
namespace Json

/-! ## Code units -/

/-- A hexadecimal digit is read as its value. -/
theorem hexValue?_digitChar {n : Nat} (h : n < 16) : hexValue? (Nat.digitChar n) = some n := by
  have hAll : ∀ n < 16, hexValue? (Nat.digitChar n) = some n := by decide
  exact hAll n h

/-- Padded digits end in the last digit of the number. -/
theorem hexPadded_succ {width : Nat} (h : 0 < width) (n : Nat) :
    Text.hexPadded (width + 1) n = Text.hexPadded width (n / 16) ++ [Nat.digitChar (n % 16)] := by
  by_cases hSmall : n < 16
  · obtain ⟨k, rfl⟩ := Nat.exists_eq_succ_of_ne_zero (Nat.ne_of_gt h)
    have hZero : Nat.digitChar 0 = '0' := rfl
    rw [Text.hexPadded, Text.hexPadded, Nat.div_eq_of_lt hSmall, Nat.mod_eq_of_lt hSmall,
      Nat.toDigits_of_lt_base hSmall, Nat.toDigits_of_lt_base (by decide), hZero]
    simp [List.replicate_succ']
  · have hLength : (Nat.toDigits 16 (n / 16) ++ [Nat.digitChar (n % 16)]).length =
        (Nat.toDigits 16 (n / 16)).length + 1 := by simp
    rw [Text.hexPadded, Text.hexPadded, Nat.toDigits_of_base_le (by decide) (by omega), hLength,
      Nat.add_sub_add_right, List.append_assoc]

/-- A code unit is read from its four digits. -/
theorem codeUnit?_hexPadded {n : Nat} (h : n < 0x10000) :
    ∃ w x y z, Text.hexPadded 4 n = [w, x, y, z] ∧ codeUnit? w x y z = some n := by
  refine ⟨Nat.digitChar (n / 16 / 16 / 16), Nat.digitChar (n / 16 / 16 % 16),
    Nat.digitChar (n / 16 % 16), Nat.digitChar (n % 16), ?_, ?_⟩
  · have hFirst : Text.hexPadded 1 (n / 16 / 16 / 16) = [Nat.digitChar (n / 16 / 16 / 16)] := by
      rw [Text.hexPadded, Nat.toDigits_of_lt_base (by omega)]
      rfl
    rw [hexPadded_succ (by decide), hexPadded_succ (by decide), hexPadded_succ (by decide), hFirst]
    rfl
  · rw [codeUnit?, hexValue?_digitChar (by omega), hexValue?_digitChar (by omega),
      hexValue?_digitChar (by omega), hexValue?_digitChar (by omega)]
    simp only [Option.pure_def, Option.bind_eq_bind, Option.bind_some, Option.some.injEq]
    omega

/-! ## Texts -/

/-- The characters stand for one character of a text: itself, an escape with a letter, a code unit
that is no half of a pair, or a pair of code units. -/
inductive Denotes : List Char → Char → Prop
  | plain {c : Char} (hQuote : c ≠ '"') (hSlash : c ≠ '\\') (hInk : 0x20 ≤ c.toNat) :
      Denotes [c] c
  | letter {e c : Char} (h : shortEscape? e = some c) : Denotes ['\\', e] c
  | unit {w x y z : Char} {unit : Nat} (h : codeUnit? w x y z = some unit)
      (hWhole : isHighHalf unit = false) : Denotes ['\\', 'u', w, x, y, z] (unitChar unit)
  | pair {w x y z w' x' y' z' : Char} {high low : Nat} (hHigh : codeUnit? w x y z = some high)
      (hLow : codeUnit? w' x' y' z' = some low) (h : (isHighHalf high && isLowHalf low) = true) :
      Denotes ['\\', 'u', w, x, y, z, '\\', 'u', w', x', y', z'] (pairChar high low)

/-- What stands for a character is read as the character, whatever comes after it. -/
theorem readText_append {cs : List Char} {c : Char} (h : Denotes cs c) (rest : List Char) :
    readText (cs ++ rest) = (readText rest).map fun (s, r) => (c :: s, r) := by
  cases h with
  | plain hQuote hSlash hInk =>
    have hOther : ¬(c = '\\' ∨ c.toNat < 0x20) := by
      rintro (hSame | hControl)
      · exact hSlash hSame
      · omega
    rw [List.singleton_append, readText, if_neg hOther]
    all_goals simp [hQuote, hSlash]
  | @letter e _ h =>
    have hLetter : e ≠ 'u' := by
      rintro rfl
      cases h
    rw [List.cons_append, List.singleton_append, readText, h]
    all_goals simp [hLetter]
  | @unit w x y z unit h hWhole =>
    change readText ('\\' :: 'u' :: w :: x :: y :: z :: rest) = _
    -- Another code unit may follow, but the two are no pair.
    by_cases hNext : ∃ w' x' y' z' after, rest = '\\' :: 'u' :: w' :: x' :: y' :: z' :: after
    · obtain ⟨w', x', y', z', after, rfl⟩ := hNext
      rw [readText.eq_3, h]
      cases codeUnit? w' x' y' z' with
      | none => rfl
      | some low => simp only [hWhole, Bool.false_and, Bool.false_eq_true, if_false]
    · rw [readText, h]
      intro w' x' y' z' after hRest
      exact hNext ⟨w', x', y', z', after, hRest⟩
  | @pair w x y z w' x' y' z' high low hHigh hLow h =>
    change readText
      ('\\' :: 'u' :: w :: x :: y :: z :: '\\' :: 'u' :: w' :: x' :: y' :: z' :: rest) = _
    rw [readText.eq_3, hHigh, hLow]
    simp only [h, if_true]

/-- No carriage return has a part in what stands for a character. -/
theorem not_mem_of_denotes {cs : List Char} {c : Char} (h : Denotes cs c) : '\r' ∉ cs := by
  have hNone : hexValue? '\r' = none := rfl
  have hUnit {w x y z : Char} {unit : Nat} (h : codeUnit? w x y z = some unit) :
      '\r' ∉ [w, x, y, z] := by
    intro hMem
    simp only [List.mem_cons, List.not_mem_nil, or_false] at hMem
    rcases hMem with rfl | rfl | rfl | rfl
    all_goals simp [codeUnit?, hNone] at h
  cases h with
  | plain hQuote hSlash hInk =>
    rw [List.mem_singleton]
    rintro rfl
    exact absurd hInk (by decide)
  | letter h =>
    simp only [List.mem_cons, List.not_mem_nil, or_false, not_or]
    refine ⟨by decide, ?_⟩
    rintro rfl
    cases h
  | unit h hWhole =>
    have hDigits := hUnit h
    simp_all
  | pair hHigh hLow h =>
    have hFirst := hUnit hHigh
    have hSecond := hUnit hLow
    simp_all

/-- A character of the first plane is denoted by its code unit. -/
theorem denotes_unitEscape {c : Char} (h : c.toNat < 0x10000) : Denotes (unitEscape c.toNat) c := by
  have hBounds : c.toNat < 0xD800 ∨ 0xDFFF < c.toNat ∧ c.toNat < 0x110000 := c.valid
  obtain ⟨w, x, y, z, hDigits, hValue⟩ := codeUnit?_hexPadded h
  have hHigh : isHighHalf c.toNat = false := by
    simp only [isHighHalf, Bool.and_eq_false_iff, decide_eq_false_iff_not]
    omega
  have hLow : isLowHalf c.toNat = false := by
    simp only [isLowHalf, Bool.and_eq_false_iff, decide_eq_false_iff_not]
    omega
  have hChar : unitChar c.toNat = c := by
    rw [unitChar, hHigh, hLow]
    exact c.ofNat_toNat
  have hUnit := Denotes.unit hValue hHigh
  rw [hChar] at hUnit
  rw [unitEscape, hDigits]
  exact hUnit

/-- The offset from the first character that is written as a pair is split into ten bits and ten
bits. -/
theorem denotes_pairEscape {c : Char} (h : 0x10000 ≤ c.toNat) :
    Denotes (unitEscape (0xD800 + (c.toNat - 0x10000) / 0x400) ++
      unitEscape (0xDC00 + (c.toNat - 0x10000) % 0x400)) c := by
  have hBounds : c.toNat < 0xD800 ∨ 0xDFFF < c.toNat ∧ c.toNat < 0x110000 := c.valid
  have hOffset : (c.toNat - 0x10000) / 0x400 < 0x400 := by omega
  obtain ⟨w, x, y, z, hDigits, hHigh⟩ :=
    codeUnit?_hexPadded (n := 0xD800 + (c.toNat - 0x10000) / 0x400) (by omega)
  obtain ⟨w', x', y', z', hDigits', hLow⟩ :=
    codeUnit?_hexPadded (n := 0xDC00 + (c.toNat - 0x10000) % 0x400) (by omega)
  have hHalves : (isHighHalf (0xD800 + (c.toNat - 0x10000) / 0x400) &&
      isLowHalf (0xDC00 + (c.toNat - 0x10000) % 0x400)) = true := by
    simp only [isHighHalf, isLowHalf, Bool.and_eq_true, decide_eq_true_eq]
    omega
  have hChar : pairChar (0xD800 + (c.toNat - 0x10000) / 0x400)
      (0xDC00 + (c.toNat - 0x10000) % 0x400) = c := by
    have hNumber : 0x10000 + (0xD800 + (c.toNat - 0x10000) / 0x400 - 0xD800) * 0x400 +
        (0xDC00 + (c.toNat - 0x10000) % 0x400 - 0xDC00) = c.toNat := by omega
    rw [pairChar, hNumber, Char.ofNat_toNat]
  have hPair := Denotes.pair hHigh hLow hHalves
  rw [hChar] at hPair
  rw [unitEscape, unitEscape, hDigits, hDigits']
  exact hPair

/-- A character as it is written stands for the character. -/
theorem denotes_escapeChar (c : Char) : Denotes (escapeChar c) c := by
  by_cases hQuote : c = '"'
  · rw [hQuote]
    exact .letter rfl
  by_cases hSlash : c = '\\'
  · rw [hSlash]
    exact .letter rfl
  by_cases hLine : c = '\n'
  · rw [hLine]
    exact .letter rfl
  by_cases hReturn : c = '\r'
  · rw [hReturn]
    exact .letter rfl
  by_cases hTab : c = '\t'
  · rw [hTab]
    exact .letter rfl
  by_cases hPage : c = '\x0c'
  · rw [hPage]
    exact .letter rfl
  by_cases hBack : c = '\x08'
  · rw [hBack]
    exact .letter rfl
  rw [escapeChar, if_neg hQuote, if_neg hSlash, if_neg hLine, if_neg hReturn, if_neg hTab,
    if_neg hPage, if_neg hBack]
  by_cases hPlain : 0x20 ≤ c.toNat ∧ c.toNat < 0x7F
  · rw [if_pos hPlain]
    exact .plain hQuote hSlash hPlain.1
  by_cases hUnit : c.toNat < 0x10000
  · rw [if_neg hPlain, if_pos hUnit]
    exact denotes_unitEscape hUnit
  · rw [if_neg hPlain, if_neg hUnit]
    exact denotes_pairEscape (Nat.le_of_not_lt hUnit)

/-- A written text is read up to its closing quote. -/
theorem readText_flatMap (cs rest : List Char) :
    readText (cs.flatMap escapeChar ++ '"' :: rest) = .ok (cs, rest) := by
  induction cs with
  | nil => rw [List.flatMap_nil, List.nil_append, readText]
  | cons c cs ih =>
    rw [List.flatMap_cons, List.append_assoc, readText_append (denotes_escapeChar c), ih]
    rfl

/-! ## Single values -/

/-- A truth value, a text, or a natural number that is not too long to be read. -/
inductive Simple : Json → Prop
  | bool (b : Bool) : Simple (.bool b)
  | str (s : String) : Simple (.str s)
  | int (n : Nat) (h : (Nat.toDigits 10 n).length ≤ Number.digitLimit) : Simple (.int n)

/-- No number goes on here. -/
def EndsNumber (rest : List Char) : Prop :=
  ∀ c ∈ rest.head?, c.isDigit = false ∧ c ≠ '.' ∧ c ≠ 'e' ∧ c ≠ 'E'

/-- A text is written in quotes, each character escaped where it has to be. -/
theorem toList_writeText (s : String) :
    (writeText s).toList = '"' :: (s.toList.flatMap escapeChar ++ ['"']) := by
  rw [writeText, String.toList_ofList, List.cons_append]

theorem afterWord?_eq_none {word : String} {c d : Char} (hWord : word.toList.head? = some c)
    (h : d ≠ c) (rest : List Char) : afterWord? word (d :: rest) = none := by
  rw [afterWord?, if_neg]
  cases hChars : word.toList with
  | nil =>
    rw [hChars] at hWord
    cases hWord
  | cons first more =>
    rw [hChars] at hWord
    cases hWord
    simp [List.isPrefixOf, h.symm]

/-- What begins with a digit is read as a number. -/
theorem readScalar_digit {d : Char} (hDigit : d.isDigit = true) (rest : List Char) :
    readScalar (d :: rest) = readMagnitude false (d :: rest) := by
  have hOther {c : Char} (hc : c.isDigit = false) : d ≠ c := Text.ne_of_isDigit hDigit hc
  have hWords (word : String) {c : Char} (hWord : word.toList.head? = some c)
      (hc : c.isDigit = false) : afterWord? word (d :: rest) = none :=
    afterWord?_eq_none hWord (hOther hc) rest
  rw [readScalar, hWords "null" rfl (by decide), hWords "true" rfl (by decide),
    hWords "false" rfl (by decide), hWords "NaN" rfl (by decide), hWords "Infinity" rfl (by decide),
    hWords "-Infinity" rfl (by decide)]
  · intro after hQuote
    exact absurd (List.cons.inj hQuote).1 (hOther (by decide))
  · intro after hMinus
    exact absurd (List.cons.inj hMinus).1 (hOther (by decide))

theorem takeFraction_of_endsNumber {rest : List Char} (h : EndsNumber rest) :
    takeFraction rest = ([], rest) := by
  unfold takeFraction
  split
  · exact absurd rfl (h '.' rfl).2.1
  · rfl

theorem takeExponent_of_endsNumber {rest : List Char} (h : EndsNumber rest) :
    takeExponent rest = (none, rest) := by
  cases rest with
  | nil => rfl
  | cons e rest =>
    obtain ⟨_, _, hSmall, hCapital⟩ := h e rfl
    rw [takeExponent, if_neg]
    rintro (hSame | hSame)
    · exact hSmall hSame
    · exact hCapital hSame

/-- Decimal digits are read as their number. -/
theorem readMagnitude_toDigits {n : Nat} (hSize : (Nat.toDigits 10 n).length ≤ Number.digitLimit)
    {rest : List Char} (hEnds : EndsNumber rest) :
    readMagnitude false (Nat.toDigits 10 n ++ rest) = .ok (.int n, rest) := by
  have hSpan : takeDigits (Nat.toDigits 10 n ++ rest) = (Nat.toDigits 10 n, rest) := by
    apply Number.span_toDigits
    cases rest with
    | nil => rfl
    | cons c rest => simp [(hEnds c rfl).1]
  have hSome : (Nat.toDigits 10 n).isEmpty = false := by simp [Nat.toDigits_ne_nil]
  have hShort : ¬Number.digitLimit < (Nat.toDigits 10 n).length := by omega
  unfold readMagnitude
  split
  rename_i whole left hTaken
  -- A zero is the only digit of its number.
  have hWhole : whole = Nat.toDigits 10 n ∧ left = rest := by
    split at hTaken
    · rename_i after hDigits
      by_cases hZero : n = 0
      · subst hZero
        cases hTaken
        exact ⟨rfl, (List.cons.inj hDigits).2.symm⟩
      · obtain ⟨d, more, hChars, _⟩ := Number.exists_toDigits_eq_cons n
        have hFirst := Number.head?_toDigits_ne_zero hZero
        rw [hChars] at hDigits hFirst
        exact absurd (congrArg some (List.cons.inj hDigits).1) hFirst
    · rw [hSpan] at hTaken
      cases hTaken
      exact ⟨rfl, rfl⟩
  obtain ⟨rfl, rfl⟩ := hWhole
  simp only [hSome, hShort, takeFraction_of_endsNumber hEnds, takeExponent_of_endsNumber hEnds,
    Number.ofDigits_toDigits]
  rfl

theorem toList_compact_int (n : Nat) : (Json.compact (.int n)).toList = Nat.toDigits 10 n := by
  have hNumber : Json.compact (.int n) = toString n := rfl
  rw [hNumber, Nat.toString_eq_ofList_toDigits, String.toList_ofList]

/-- A written simple value is read up to its end. -/
theorem readValue_compact {v : Json} (h : Simple v) (fuel : Nat) {rest : List Char}
    (hEnds : EndsNumber rest) : readValue (fuel + 1) (v.compact.toList ++ rest) = .ok (v, rest) := by
  cases h with
  | bool b =>
    cases b
    · rfl
    · rfl
  | str s =>
    have hText := readText_flatMap s.toList rest
    rw [compact, toList_writeText, List.cons_append, List.append_assoc, List.singleton_append,
      readValue, readScalar, hText]
    · simp [Except.map]
    · simp
    · simp
  | int n hSize =>
    have hWritten : (Json.compact (.int n)).toList = Nat.toDigits 10 n := toList_compact_int n
    obtain ⟨d, more, hChars, hDigit⟩ := Number.exists_toDigits_eq_cons n
    have hNumber := readMagnitude_toDigits hSize hEnds
    rw [hChars, List.cons_append] at hNumber
    rw [hWritten, hChars, List.cons_append, readValue, readScalar_digit hDigit, hNumber]
    · intro after hBracket
      exact absurd (List.cons.inj hBracket).1 (Text.ne_of_isDigit hDigit (by decide))
    · intro after hBrace
      exact absurd (List.cons.inj hBrace).1 (Text.ne_of_isDigit hDigit (by decide))

/-! ## Objects -/

/-- A member that is not there yet is put at the end. -/
theorem putMember_of_not_mem {key : String} {known : List (String × Json)}
    (h : key ∉ known.map Prod.fst) (v : Json) : putMember key v known = known ++ [(key, v)] := by
  induction known with
  | nil => rfl
  | cons member known ih =>
    rw [List.map_cons, List.mem_cons, not_or] at h
    rw [putMember, if_neg (Ne.symm h.1), ih h.2, List.cons_append]

def memberChars (member : String × Json) : List Char :=
  (writeText member.1).toList ++ ':' :: ' ' :: member.2.compact.toList

theorem skipSpace_of_ink {c : Char} (h : isSpace c = false) (rest : List Char) :
    skipSpace (c :: rest) = c :: rest := by
  rw [skipSpace, List.dropWhile_cons, if_neg (by simp [h])]

theorem skipSpace_cons {c : Char} (h : isSpace c = true) (rest : List Char) :
    skipSpace (c :: rest) = skipSpace rest := by
  rw [skipSpace, List.dropWhile_cons, if_pos h, skipSpace]

/-- A written simple value does not begin with white space. -/
theorem skipSpace_compact {v : Json} (h : Simple v) (rest : List Char) :
    skipSpace (v.compact.toList ++ rest) = v.compact.toList ++ rest := by
  cases h with
  | bool b =>
    cases b
    · rfl
    · rfl
  | str s =>
    rw [compact, toList_writeText, List.cons_append]
    exact skipSpace_of_ink (by decide) _
  | int n hSize =>
    obtain ⟨d, more, hChars, hDigit⟩ := Number.exists_toDigits_eq_cons n
    have hInk : isSpace d = false := by
      have hOther {c : Char} (hc : c.isDigit = false) : d ≠ c := Text.ne_of_isDigit hDigit hc
      simp [isSpace, hOther (c := ' ') (by decide), hOther (c := '\t') (by decide),
        hOther (c := '\n') (by decide), hOther (c := '\r') (by decide)]
    rw [toList_compact_int, hChars, List.cons_append, skipSpace_of_ink hInk]

/-- A member is read, and then either the object ends or another member follows. -/
theorem readMembers_memberChars {member : String × Json} (h : Simple member.2) (fuel : Nat)
    (known : List (String × Json)) {rest : List Char} (hEnds : EndsNumber rest) (after : List Char) :
    (skipSpace rest = '\x7d' :: after →
      readMembers (fuel + 2) (memberChars member ++ rest) known =
        .ok (putMember member.1 member.2 known, after)) ∧
    (skipSpace rest = ',' :: after →
      readMembers (fuel + 2) (memberChars member ++ rest) known =
        readMembers (fuel + 1) (skipSpace after) (putMember member.1 member.2 known)) := by
  obtain ⟨key, v⟩ := member
  have hKey := readText_flatMap key.toList (':' :: ' ' :: (v.compact.toList ++ rest))
  have hColon : skipSpace (':' :: ' ' :: (v.compact.toList ++ rest)) =
      ':' :: ' ' :: (v.compact.toList ++ rest) := skipSpace_of_ink (by decide) _
  have hValue : skipSpace (' ' :: (v.compact.toList ++ rest)) = v.compact.toList ++ rest := by
    rw [skipSpace_cons (by decide), skipSpace_compact h]
  have hText : memberChars (key, v) ++ rest =
      '"' :: (key.toList.flatMap escapeChar ++ '"' :: ':' :: ' ' :: (v.compact.toList ++ rest)) := by
    simp [memberChars, toList_writeText]
  rw [hText, readMembers]
  constructor
  · intro hRest
    simp only [hKey, hColon, hValue, readValue_compact h fuel hEnds, String.ofList_toList, hRest]
  · intro hRest
    simp only [hKey, hColon, hValue, readValue_compact h fuel hEnds, String.ofList_toList, hRest]

def membersChars (members : List (String × Json)) : List Char :=
  ",\n  ".toList.intercalate (members.map memberChars)

theorem membersChars_singleton (member : String × Json) :
    membersChars [member] = memberChars member := by
  rw [membersChars, List.map_singleton, List.intercalate_singleton]

theorem membersChars_cons_cons (member next : String × Json) (members : List (String × Json)) :
    membersChars (member :: next :: members) =
      memberChars member ++ ',' :: '\n' :: ' ' :: ' ' :: membersChars (next :: members) := by
  simp [membersChars, List.intercalate_cons_cons]

/-- Members begin with the quote of a name. -/
theorem membersChars_cons (member : String × Json) (members : List (String × Json)) :
    ∃ more, membersChars (member :: members) = '"' :: more := by
  cases members with
  | nil =>
    rw [membersChars_singleton, memberChars, toList_writeText]
    exact ⟨_, rfl⟩
  | cons next members =>
    rw [membersChars_cons_cons, memberChars, toList_writeText]
    exact ⟨_, rfl⟩

/-- Members with different names are read in their order, up to the brace that closes the object. -/
theorem readMembers_written {members : List (String × Json)} (hSome : members ≠ [])
    (hSimple : ∀ member ∈ members, Simple member.2) (known : List (String × Json))
    (hNames : ((known ++ members).map Prod.fst).Nodup) {fuel : Nat} (hFuel : members.length ≤ fuel)
    (rest : List Char) :
    readMembers (fuel + 1) (membersChars members ++ '\n' :: '\x7d' :: rest) known =
      .ok (known ++ members, rest) := by
  induction members generalizing known fuel with
  | nil => exact absurd rfl hSome
  | cons member members ih =>
    obtain ⟨fuel, rfl⟩ : ∃ k, fuel = k + 1 := ⟨fuel - 1, by simp at hFuel; omega⟩
    have hMember := hSimple member List.mem_cons_self
    have hNew : member.1 ∉ known.map Prod.fst := by
      rw [List.map_append, List.map_cons] at hNames
      intro hKnown
      exact (List.nodup_append.mp hNames).2.2 _ hKnown _ List.mem_cons_self rfl
    -- The last member is followed by the brace, any other one by a comma and a new line.
    cases members with
    | nil =>
      have hEnds : EndsNumber ('\n' :: '\x7d' :: rest) := by
        rintro _ ⟨⟩
        decide
      have hBrace : skipSpace ('\n' :: '\x7d' :: rest) = '\x7d' :: rest := rfl
      rw [membersChars_singleton, (readMembers_memberChars hMember _ _ hEnds _).1 hBrace,
        putMember_of_not_mem hNew]
    | cons next members =>
      have hLength : (next :: members).length ≤ fuel := by simpa using hFuel
      have hRest := ih (List.cons_ne_nil _ _) (fun m hm => hSimple m (List.mem_cons_of_mem _ hm))
        (known ++ [member]) (by simpa using hNames) hLength
      obtain ⟨more, hMore⟩ := membersChars_cons next members
      have hText : membersChars (member :: next :: members) ++ '\n' :: '\x7d' :: rest =
          memberChars member ++ ',' :: '\n' :: ' ' :: ' ' ::
            (membersChars (next :: members) ++ '\n' :: '\x7d' :: rest) := by
        rw [membersChars_cons_cons, List.append_assoc]
        rfl
      rw [hMore, List.cons_append] at hRest hText
      have hEnds (after : List Char) : EndsNumber (',' :: after) := by
        rintro _ ⟨⟩
        decide
      have hComma (after : List Char) : skipSpace (',' :: after) = ',' :: after :=
        skipSpace_of_ink (by decide) after
      have hSkip (after : List Char) : skipSpace ('\n' :: ' ' :: ' ' :: '"' :: after) = '"' :: after :=
        rfl
      rw [hText, (readMembers_memberChars hMember _ _ (hEnds _) _).2 (hComma _),
        putMember_of_not_mem hNew, hSkip, hRest, List.append_assoc, List.singleton_append]

/-- Each member is its key and its value on a line. -/
theorem compactMembers_eq_map (members : List (String × Json)) :
    compactMembers members = members.map fun m => writeText m.1 ++ ": " ++ m.2.compact := by
  induction members with
  | nil => rfl
  | cons member members ih => rw [compactMembers, ih, List.map_cons]

/-- A sheet is an opening brace, its members on lines, and a closing brace. -/
theorem toList_sheet (members : List (String × Json)) :
    (sheet members).toList =
      '\x7b' :: '\n' :: ' ' :: ' ' :: (membersChars members ++ ['\n', '\x7d']) := by
  have hMember (m : String × Json) :
      (writeText m.1 ++ ": " ++ m.2.compact).toList = memberChars m := by
    simp [memberChars]
  simp [sheet, String.toList_intercalate, compactMembers_eq_map, membersChars, hMember,
    Function.comp_def]

/-- There are at least as many characters as members: enough fuel to read them all. -/
theorem length_le_membersChars (members : List (String × Json)) :
    members.length ≤ (membersChars members).length := by
  induction members with
  | nil => exact Nat.zero_le _
  | cons member members ih =>
    obtain ⟨more, hMore⟩ := membersChars_cons member members
    cases members with
    | nil =>
      rw [hMore]
      simp
    | cons next members =>
      rw [membersChars_cons_cons, List.length_cons, List.length_append]
      simp only [List.length_cons] at ih ⊢
      omega

/-- A written object with simple values and different names is read as it was. -/
theorem read_sheet {members : List (String × Json)} (hSome : members ≠ [])
    (hSimple : ∀ member ∈ members, Simple member.2) (hNames : (members.map Prod.fst).Nodup) :
    read (sheet members) = .ok (.obj members) := by
  obtain ⟨member, others, hMembers⟩ := List.exists_cons_of_ne_nil hSome
  obtain ⟨more, hMore⟩ := membersChars_cons member others
  rw [← hMembers] at hMore
  have hFuel : members.length ≤ (membersChars members ++ ['\n', '\x7d']).length + 3 := by
    have hLength := length_le_membersChars members
    rw [List.length_append]
    omega
  have hRead := readMembers_written hSome hSimple [] hNames hFuel []
  rw [hMore, List.cons_append] at hRead
  have hValue : readValue ((sheet members).toList.length + 1) (skipSpace (sheet members).toList) =
      .ok (.obj members, []) := by
    have hOpen (after : List Char) : skipSpace ('\n' :: ' ' :: ' ' :: '"' :: after) = '"' :: after :=
      rfl
    rw [toList_sheet, skipSpace_of_ink (by decide), hMore, List.cons_append, readValue, hOpen]
    exact map_eq_ok.mpr ⟨_, hRead, rfl⟩
  rw [read, hValue]
  rfl

/-! ## Line ends -/

/-- No carriage return is written in a text, so that reading line ends changes nothing. -/
theorem not_mem_writeText (s : String) : '\r' ∉ (writeText s).toList := by
  have hChar (c : Char) : '\r' ∉ escapeChar c := not_mem_of_denotes (denotes_escapeChar c)
  simp [toList_writeText, hChar]

/-- No carriage return is written in a simple value. -/
theorem not_mem_compact {v : Json} (h : Simple v) : '\r' ∉ v.compact.toList := by
  cases h with
  | bool b =>
    cases b
    · decide
    · decide
  | str s => exact not_mem_writeText s
  | int n hSize =>
    rw [toList_compact_int]
    intro h
    exact Text.ne_of_isDigit (Number.isDigit_of_mem_toDigits h) (by decide) rfl

/-- A written object has no carriage returns. -/
theorem not_mem_sheet {members : List (String × Json)}
    (hSimple : ∀ member ∈ members, Simple member.2) : '\r' ∉ (sheet members).toList := by
  have hMember {member : String × Json} (h : Simple member.2) : '\r' ∉ memberChars member := by
    simp [memberChars, not_mem_writeText, not_mem_compact h]
  have hMembers : '\r' ∉ membersChars members := by
    induction members with
    | nil => exact List.not_mem_nil
    | cons member members ih =>
      have hFirst := hMember (hSimple member List.mem_cons_self)
      have hOthers := ih fun m hm => hSimple m (List.mem_cons_of_mem _ hm)
      cases members with
      | nil => rwa [membersChars_singleton]
      | cons next members =>
        rw [membersChars_cons_cons]
        simp [hFirst, hOthers]
  simp [toList_sheet, hMembers]

end Json
end StableLocator
