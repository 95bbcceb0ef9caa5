import Mathlib.Data.List.TakeDrop
import StableLocator.Proofs.Outcome
import StableLocator.Proofs.Text.Characters
import StableLocator.Text.Utf8

/-!
# Bytes of texts

Decoding undoes encoding, and takes no other bytes than those of a text.

* `Leads` — the four kinds of first bytes;
* `utf8EncodeChar_eq_one_iff` and so on — the bytes of a character by their number;
* `encoded_of_readChar`, `readChar_encoded` — what is read as a character are its bytes;
* `decode_eq_ok_iff` — the bytes that decode to a text are the bytes of the text.
-/

namespace StableLocator
namespace Text

open String (utf8EncodeChar)

/-! ## First bytes -/

/-- The announcement of a first byte, by the number of bytes that follow it. Some first bytes have
narrower bounds: below them a shorter form would do, above them is no character. -/
inductive Leads (b : Nat) : Utf8Lead → Prop
  | one (h : b < 0x80) : Leads b ⟨b, 0, 0x80, 0xBF⟩
  | two (h : 0xC2 ≤ b) (h' : b < 0xE0) : Leads b ⟨b - 0xC0, 1, 0x80, 0xBF⟩
  | three (h : 0xE0 ≤ b) (h' : b < 0xF0) :
      Leads b ⟨b - 0xE0, 2, if b = 0xE0 then 0xA0 else 0x80, if b = 0xED then 0x9F else 0xBF⟩
  | four (h : 0xF0 ≤ b) (h' : b < 0xF5) :
      Leads b ⟨b - 0xF0, 3, if b = 0xF0 then 0x90 else 0x80, if b = 0xF4 then 0x8F else 0xBF⟩

theorem ofByte?_of_leads {b : Nat} {lead : Utf8Lead} (h : Leads b lead) :
    Utf8Lead.ofByte? b = some lead := by
  cases h with
  | one h => rw [Utf8Lead.ofByte?, if_pos h]
  | two h h' =>
    rw [Utf8Lead.ofByte?, if_neg (by omega), if_neg (by omega), if_pos h']
  | three h h' =>
    rw [Utf8Lead.ofByte?, if_neg (by omega), if_neg (by omega), if_neg (by omega)]
    by_cases hFirst : b = 0xE0
    · subst hFirst
      rfl
    · by_cases hSurrogates : b = 0xED
      · subst hSurrogates
        rfl
      · simp only [if_neg hFirst, if_neg hSurrogates, if_pos h']
  | four h h' =>
    rw [Utf8Lead.ofByte?, if_neg (by omega), if_neg (by omega), if_neg (by omega),
      if_neg (by omega), if_neg (by omega), if_neg (by omega)]
    by_cases hFirst : b = 0xF0
    · subst hFirst
      rfl
    · by_cases hLast : b = 0xF4
      · subst hLast
        rfl
      · have hInner : b < 0xF4 := by omega
        simp only [if_neg hFirst, if_neg hLast, if_pos hInner]

theorem leads_of_ofByte? {b : Nat} {lead : Utf8Lead} (h : Utf8Lead.ofByte? b = some lead) :
    Leads b lead := by
  have unique {other : Utf8Lead} (hOther : Leads b other) : Leads b lead := by
    rw [ofByte?_of_leads hOther] at h
    cases h
    exact hOther
  by_cases hOne : b < 0x80
  · exact unique (.one hOne)
  by_cases hTwo : b < 0xE0
  · by_cases hShort : b < 0xC2
    · rw [Utf8Lead.ofByte?, if_neg hOne, if_pos hShort] at h
      cases h
    · exact unique (.two (by omega) hTwo)
  by_cases hThree : b < 0xF0
  · exact unique (.three (by omega) hThree)
  by_cases hFour : b < 0xF5
  · exact unique (.four (by omega) hFour)
  · rw [Utf8Lead.ofByte?, if_neg hOne, if_neg (by omega), if_neg hTwo, if_neg (by omega),
      if_neg (by omega), if_neg hThree, if_neg (by omega), if_neg (by omega),
      if_neg (by omega)] at h
    cases h

/-! ## Bytes of a character -/

section Bytes

variable {c : Char} {b b₁ b₂ b₃ : UInt8}

/-- A byte that goes on a character. -/
def IsTail (b : UInt8) : Prop := 0x80 ≤ b.toNat ∧ b.toNat ≤ 0xBF

/-- A character is no half of a surrogate pair. -/
theorem toNat_bounds (c : Char) : c.toNat < 0xD800 ∨ 0xDFFF < c.toNat ∧ c.toNat < 0x110000 :=
  c.valid

/-- One byte encodes an ASCII character. -/
theorem utf8EncodeChar_eq_one_iff : utf8EncodeChar c = [b] ↔ b.toNat < 0x80 ∧ c.toNat = b.toNat := by
  have hc : c.val.toNat = c.toNat := rfl
  simp only [utf8EncodeChar, hc]
  split_ifs <;>
    simp only [List.cons.injEq, reduceCtorEq, and_true, and_false, false_iff, ← UInt8.toNat_inj,
      UInt8.toNat_ofNat'] <;>
    omega

/-- Two bytes encode a character: a leading byte and a tail. -/
theorem utf8EncodeChar_eq_two_iff : utf8EncodeChar c = [b, b₁] ↔
    (0xC2 ≤ b.toNat ∧ b.toNat < 0xE0) ∧ IsTail b₁ ∧
      c.toNat = (b.toNat - 0xC0) * 64 + (b₁.toNat - 0x80) := by
  have hc : c.val.toNat = c.toNat := rfl
  simp only [utf8EncodeChar, hc, IsTail]
  split_ifs <;>
    simp only [List.cons.injEq, reduceCtorEq, and_true, and_false, false_iff, ← UInt8.toNat_inj,
      UInt8.toNat_ofNat'] <;>
    omega

/-- Three bytes encode a character: some leading bytes narrow the first tail. -/
theorem utf8EncodeChar_eq_three_iff : utf8EncodeChar c = [b, b₁, b₂] ↔
    (0xE0 ≤ b.toNat ∧ b.toNat < 0xF0) ∧
      ((if b.toNat = 0xE0 then 0xA0 else 0x80) ≤ b₁.toNat ∧
        b₁.toNat ≤ if b.toNat = 0xED then 0x9F else 0xBF) ∧ IsTail b₂ ∧
      c.toNat = ((b.toNat - 0xE0) * 64 + (b₁.toNat - 0x80)) * 64 + (b₂.toNat - 0x80) := by
  have hc : c.val.toNat = c.toNat := rfl
  have hBounds := toNat_bounds c
  simp only [utf8EncodeChar, hc, IsTail]
  split_ifs <;>
    simp only [List.cons.injEq, reduceCtorEq, and_true, and_false, false_iff, ← UInt8.toNat_inj,
      UInt8.toNat_ofNat'] <;>
    omega

/-- Four bytes encode a character: some leading bytes narrow the first tail. -/
theorem utf8EncodeChar_eq_four_iff : utf8EncodeChar c = [b, b₁, b₂, b₃] ↔
    (0xF0 ≤ b.toNat ∧ b.toNat < 0xF5) ∧
      ((if b.toNat = 0xF0 then 0x90 else 0x80) ≤ b₁.toNat ∧
        b₁.toNat ≤ if b.toNat = 0xF4 then 0x8F else 0xBF) ∧ IsTail b₂ ∧ IsTail b₃ ∧
      c.toNat = (((b.toNat - 0xF0) * 64 + (b₁.toNat - 0x80)) * 64 + (b₂.toNat - 0x80)) * 64 +
        (b₃.toNat - 0x80) := by
  have hc : c.val.toNat = c.toNat := rfl
  have hBounds := toNat_bounds c
  simp only [utf8EncodeChar, hc, IsTail]
  split_ifs <;>
    simp only [List.cons.injEq, reduceCtorEq, and_true, and_false, false_iff, ← UInt8.toNat_inj,
      UInt8.toNat_ofNat'] <;>
    omega

end Bytes

/-! ## Reading a character -/

/-- A tail is read if it lies within the bounds. -/
theorem readTails_succ_eq_ok_iff {tails low high point taken : Nat} {bytes : List UInt8}
    {found : Char × Nat} :
    readTails (tails + 1) low high point taken bytes = .ok found ↔
      ∃ b rest, bytes = b :: rest ∧ (low ≤ b.toNat ∧ b.toNat ≤ high) ∧
        readTails tails 0x80 0xBF (point * 64 + (b.toNat - 0x80)) (taken + 1) rest = .ok found := by
  cases bytes with
  | nil => exact ⟨nofun, by rintro ⟨b, rest, hNone, _⟩; cases hNone⟩
  | cons b rest =>
    rw [readTails]
    constructor
    · intro h
      split at h
      · rename_i hBounds
        exact ⟨b, rest, rfl, hBounds, h⟩
      · cases h
    · rintro ⟨_, _, hBytes, hBounds, h⟩
      cases hBytes
      rwa [if_pos hBounds]

/-- Without tails the code point is complete. -/
theorem readTails_zero_eq_ok_iff {low high point taken n : Nat} {bytes : List UInt8} {c : Char}
    (h : point.isValidChar) :
    readTails 0 low high point taken bytes = .ok (c, n) ↔ c.toNat = point ∧ taken = n := by
  rw [readTails, Except.ok.injEq, Prod.mk.injEq]
  constructor
  · rintro ⟨rfl, hTaken⟩
    exact ⟨toNat_ofNat h, hTaken⟩
  · rintro ⟨rfl, hTaken⟩
    exact ⟨c.ofNat_toNat, hTaken⟩

/-- Within the bounds of its first two bytes, a form of three bytes gives a character. -/
theorem isValidChar_three {b b₁ b₂ : Nat} (hFirst : 0xE0 ≤ b) (hLast : b < 0xF0)
    (hNarrow : (if b = 0xE0 then 0xA0 else 0x80) ≤ b₁ ∧ b₁ ≤ if b = 0xED then 0x9F else 0xBF)
    (hTail : b₂ ≤ 0xBF) : (((b - 0xE0) * 64 + (b₁ - 0x80)) * 64 + (b₂ - 0x80)).isValidChar := by
  unfold Nat.isValidChar
  split at hNarrow <;> split at hNarrow <;> omega

/-- Narrow bounds keep a character of four bytes below the last code point. -/
theorem isValidChar_four {b b₁ b₂ b₃ : Nat} (hFirst : 0xF0 ≤ b) (hLast : b < 0xF5)
    (hNarrow : (if b = 0xF0 then 0x90 else 0x80) ≤ b₁ ∧ b₁ ≤ if b = 0xF4 then 0x8F else 0xBF)
    (hTail₂ : b₂ ≤ 0xBF) (hTail₃ : b₃ ≤ 0xBF) :
    ((((b - 0xF0) * 64 + (b₁ - 0x80)) * 64 + (b₂ - 0x80)) * 64 + (b₃ - 0x80)).isValidChar := by
  unfold Nat.isValidChar
  split at hNarrow <;> split at hNarrow <;> omega

/-- What is read as a character are the bytes of the character. -/
theorem encoded_of_readChar {b : UInt8} {rest : List UInt8} {c : Char} {taken : Nat}
    (h : readChar b rest = .ok (c, taken)) :
    ∃ tail left, rest = tail ++ left ∧ taken = tail.length ∧ utf8EncodeChar c = b :: tail := by
  rw [readChar] at h
  split at h
  · cases h
  rename_i lead hLead
  -- Each kind of first byte says how many more there are.
  cases leads_of_ofByte? hLead with
  | one hFirst =>
    dsimp only at h
    obtain ⟨hCode, hTaken⟩ := (readTails_zero_eq_ok_iff (.inl (by omega))).mp h
    exact ⟨[], rest, rfl, hTaken.symm, utf8EncodeChar_eq_one_iff.mpr ⟨hFirst, hCode⟩⟩
  | two hFirst hLast =>
    dsimp only at h
    obtain ⟨b₁, left, rfl, hTail, h⟩ := readTails_succ_eq_ok_iff.mp h
    obtain ⟨hCode, hTaken⟩ := (readTails_zero_eq_ok_iff (.inl (by omega))).mp h
    exact ⟨[b₁], left, rfl, hTaken.symm,
      utf8EncodeChar_eq_two_iff.mpr ⟨⟨hFirst, hLast⟩, hTail, hCode⟩⟩
  | three hFirst hLast =>
    dsimp only at h
    obtain ⟨b₁, left₁, rfl, hNarrow, h⟩ := readTails_succ_eq_ok_iff.mp h
    obtain ⟨b₂, left, rfl, hTail, h⟩ := readTails_succ_eq_ok_iff.mp h
    have hValid := isValidChar_three hFirst hLast hNarrow hTail.2
    obtain ⟨hCode, hTaken⟩ := (readTails_zero_eq_ok_iff hValid).mp h
    exact ⟨[b₁, b₂], left, rfl, hTaken.symm,
      utf8EncodeChar_eq_three_iff.mpr ⟨⟨hFirst, hLast⟩, hNarrow, hTail, hCode⟩⟩
  | four hFirst hLast =>
    dsimp only at h
    obtain ⟨b₁, left₁, rfl, hNarrow, h⟩ := readTails_succ_eq_ok_iff.mp h
    obtain ⟨b₂, left₂, rfl, hTail₂, h⟩ := readTails_succ_eq_ok_iff.mp h
    obtain ⟨b₃, left, rfl, hTail₃, h⟩ := readTails_succ_eq_ok_iff.mp h
    have hValid := isValidChar_four hFirst hLast hNarrow hTail₂.2 hTail₃.2
    obtain ⟨hCode, hTaken⟩ := (readTails_zero_eq_ok_iff hValid).mp h
    exact ⟨[b₁, b₂, b₃], left, rfl, hTaken.symm,
      utf8EncodeChar_eq_four_iff.mpr ⟨⟨hFirst, hLast⟩, hNarrow, hTail₂, hTail₃, hCode⟩⟩

/-- The bytes of a character are read as the character, whatever comes after them. -/
theorem readChar_encoded {b : UInt8} {tail : List UInt8} {c : Char}
    (h : utf8EncodeChar c = b :: tail) (left : List UInt8) :
    readChar b (tail ++ left) = .ok (c, tail.length) := by
  have hValid : c.toNat.isValidChar := c.valid
  have hRead {lead : Utf8Lead} (hLead : Leads b.toNat lead) : readChar b (tail ++ left) =
      readTails lead.tails lead.low lead.high lead.bits 0 (tail ++ left) := by
    rw [readChar, ofByte?_of_leads hLead]
  match tail, h with
  | [], h =>
    obtain ⟨hFirst, hCode⟩ := utf8EncodeChar_eq_one_iff.mp h
    rw [hRead (.one hFirst), readTails_zero_eq_ok_iff (hCode ▸ hValid)]
    exact ⟨hCode, rfl⟩
  | [b₁], h =>
    obtain ⟨⟨hFirst, hLast⟩, hTail, hCode⟩ := utf8EncodeChar_eq_two_iff.mp h
    rw [hRead (.two hFirst hLast), readTails_succ_eq_ok_iff]
    refine ⟨b₁, left, rfl, hTail, ?_⟩
    exact (readTails_zero_eq_ok_iff (hCode ▸ hValid)).mpr ⟨hCode, rfl⟩
  | [b₁, b₂], h =>
    obtain ⟨⟨hFirst, hLast⟩, hNarrow, hTail, hCode⟩ := utf8EncodeChar_eq_three_iff.mp h
    rw [hRead (.three hFirst hLast), readTails_succ_eq_ok_iff]
    refine ⟨b₁, b₂ :: left, rfl, hNarrow, ?_⟩
    refine readTails_succ_eq_ok_iff.mpr ⟨b₂, left, rfl, hTail, ?_⟩
    exact (readTails_zero_eq_ok_iff (hCode ▸ hValid)).mpr ⟨hCode, rfl⟩
  | [b₁, b₂, b₃], h =>
    obtain ⟨⟨hFirst, hLast⟩, hNarrow, hTail₂, hTail₃, hCode⟩ := utf8EncodeChar_eq_four_iff.mp h
    rw [hRead (.four hFirst hLast), readTails_succ_eq_ok_iff]
    refine ⟨b₁, b₂ :: b₃ :: left, rfl, hNarrow, ?_⟩
    refine readTails_succ_eq_ok_iff.mpr ⟨b₂, b₃ :: left, rfl, hTail₂, ?_⟩
    refine readTails_succ_eq_ok_iff.mpr ⟨b₃, left, rfl, hTail₃, ?_⟩
    exact (readTails_zero_eq_ok_iff (hCode ▸ hValid)).mpr ⟨hCode, rfl⟩
  | _ :: _ :: _ :: _ :: _, h =>
    -- No character has more than four bytes.
    have hLength := congrArg List.length h
    have hMost := c.utf8Size_le_four
    rw [String.length_utf8EncodeChar] at hLength
    simp only [List.length_cons] at hLength
    omega

/-! ## Whole texts -/

/-- What was encoded is decoded to the characters. -/
theorem decodeFrom_encoded (position : Nat) (cs : List Char) :
    decodeFrom position (cs.flatMap utf8EncodeChar) = .ok cs := by
  induction cs generalizing position with
  | nil => rw [List.flatMap_nil, decodeFrom]
  | cons c cs ih =>
    have hSome : utf8EncodeChar c ≠ [] := by
      rw [← List.length_pos_iff, String.length_utf8EncodeChar]
      exact c.utf8Size_pos
    obtain ⟨b, tail, hBytes⟩ := List.exists_cons_of_ne_nil hSome
    rw [List.flatMap_cons, hBytes, List.cons_append, decodeFrom, readChar_encoded hBytes]
    simp only [List.drop_left, ih]
    rfl

/-- What is decoded was encoded from the characters. -/
theorem encoded_of_decodeFrom {position : Nat} {bytes : List UInt8} {cs : List Char}
    (h : decodeFrom position bytes = .ok cs) : cs.flatMap utf8EncodeChar = bytes := by
  fun_induction decodeFrom position bytes generalizing cs with
  | case1 =>
    cases h
    rfl
  | case2 position b rest c taken hRead =>
    rename_i ih
    obtain ⟨more, hMore, rfl⟩ := map_eq_ok.mp h
    obtain ⟨tail, left, rfl, rfl, hBytes⟩ := encoded_of_readChar hRead
    rw [List.drop_left] at ih hMore
    rw [List.flatMap_cons, hBytes, ih hMore, List.cons_append]
  | case3 => cases h

/-- The loop lists the bytes from a place on, after those it has listed in reverse. -/
theorem toList_loop (bytes : ByteArray) (i : Nat) (before : List UInt8) :
    ByteArray.toList.loop bytes i before = before.reverse ++ bytes.data.toList.drop i := by
  fun_induction ByteArray.toList.loop bytes i before with
  | case1 i before hMore ih =>
    have hIndex : i < bytes.data.toList.length := hMore
    have hByte : bytes.get! i = bytes.data.toList[i] := getElem!_pos bytes.data i hIndex
    rw [ih, List.drop_eq_getElem_cons hIndex, hByte, List.reverse_cons, List.append_assoc,
      List.singleton_append]
  | case2 i before hEnd =>
    have hNone : bytes.data.toList.length ≤ i := Nat.le_of_not_lt hEnd
    rw [List.drop_eq_nil_of_le hNone, List.append_nil]

theorem encode_eq_flatMap (s : String) : encode s = s.toList.flatMap utf8EncodeChar := by
  calc encode s
      = s.toByteArray.data.toList := by
        rw [encode, String.toUTF8_eq_toByteArray, ByteArray.toList, toList_loop, List.drop_zero,
          List.reverse_nil, List.nil_append]
    _ = s.toList.utf8Encode.data.toList := by rw [String.utf8Encode_toList]
    _ = s.toList.flatMap utf8EncodeChar := by rw [List.utf8Encode, List.toList_data_toByteArray]

/-- The bytes that decode to a text are the bytes of the text. -/
theorem decode_eq_ok_iff {bytes : List UInt8} {s : String} :
    decode bytes = .ok s ↔ encode s = bytes := by
  rw [decode, map_eq_ok, encode_eq_flatMap]
  constructor
  · rintro ⟨cs, hDecode, rfl⟩
    rw [String.toList_ofList]
    exact encoded_of_decodeFrom hDecode
  · rintro rfl
    exact ⟨s.toList, decodeFrom_encoded 0 s.toList, String.ofList_toList⟩

/-- A text without carriage returns has its line ends already. -/
theorem unifyLineEnds_eq_self {cs : List Char} (h : '\r' ∉ cs) : unifyLineEnds cs = cs := by
  fun_induction unifyLineEnds cs with
  | case1 => rfl
  | case2 rest ih => exact absurd List.mem_cons_self h
  | case3 rest _ ih => exact absurd List.mem_cons_self h
  | case4 c rest _ _ ih => rw [ih fun hRest => h (List.mem_cons_of_mem c hRest)]

end Text
end StableLocator
