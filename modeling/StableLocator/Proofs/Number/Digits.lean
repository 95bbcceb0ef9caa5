import Mathlib.Algebra.Group.Nat.Defs
import Mathlib.Data.List.TakeDrop
import Mathlib.Data.List.TakeWhile
import StableLocator.Number.Integer
import StableLocator.Proofs.Text.Characters

/-!
# Decimal digits

The decimal digits of a number are digits, denote the number and are taken as one run. Only zero
begins with the digit zero. A number that is written in them is read again, unless there are too many.
-/

namespace StableLocator
namespace Number

theorem isDigit_of_mem_toDigits {k : Nat} {c : Char} (h : c ∈ Nat.toDigits 10 k) :
    c.isDigit = true :=
  Nat.isDigit_of_mem_toDigits (by decide) (by decide) h

/-- A number has at least one digit. -/
theorem exists_toDigits_eq_cons (k : Nat) :
    ∃ d more, Nat.toDigits 10 k = d :: more ∧ d.isDigit = true := by
  cases hDigits : Nat.toDigits 10 k with
  | nil => exact absurd hDigits Nat.toDigits_ne_nil
  | cons d more =>
    have hMem : d ∈ Nat.toDigits 10 k := hDigits ▸ List.mem_cons_self
    exact ⟨d, more, rfl, isDigit_of_mem_toDigits hMem⟩

/-- The digits of a number denote it. -/
theorem ofDigits_toDigits (k : Nat) :
    ofDigits ((Nat.toDigits 10 k).map fun c => c.toNat - 48) = k := by
  have hDigits : Nat.ofDigitChars 10 (Nat.toDigits 10 k) 0 = k := Nat.ofDigitChars_ten_toDigits
  rw [ofDigits, List.foldl_map]
  rw [Nat.ofDigitChars] at hDigits
  simpa [Nat.mul_comm] using hDigits

/-- The digits of a number are taken as one run, if no digit follows. -/
theorem span_toDigits (k : Nat) {rest : List Char} (h : rest.head?.all fun c => !c.isDigit) :
    (Nat.toDigits 10 k ++ rest).span Char.isDigit = (Nat.toDigits 10 k, rest) := by
  have hDigits : ∀ c ∈ Nat.toDigits 10 k, c.isDigit = true := fun _ hc => isDigit_of_mem_toDigits hc
  rw [List.span_eq_takeWhile_dropWhile, List.takeWhile_append_of_pos hDigits,
    List.dropWhile_append_of_pos hDigits]
  cases rest with
  | nil => simp
  | cons c rest =>
    have hOther : c.isDigit = false := by simpa using h
    simp [hOther]

/-- Only zero begins with the digit zero. -/
theorem head?_toDigits_ne_zero {k : Nat} (h : k ≠ 0) : (Nat.toDigits 10 k).head? ≠ some '0' := by
  -- The first digit stays when the last one is taken off.
  induction k using Nat.strongRecOn with
  | ind k ih =>
    by_cases hSmall : k < 10
    · have hFirst : ∀ n < 10, n ≠ 0 → Nat.digitChar n ≠ '0' := by decide
      rw [Nat.toDigits_of_lt_base hSmall, List.head?_cons]
      simpa using hFirst k hSmall h
    · have hFirst := ih (k / 10) (by omega) (by omega)
      obtain ⟨d, more, hChars, _⟩ := exists_toDigits_eq_cons (k / 10)
      rw [hChars, List.head?_cons] at hFirst
      rwa [Nat.toDigits_of_base_le (by decide) (by omega), hChars, List.cons_append, List.head?_cons]

/-- A number from a power of ten on has more digits than the exponent. -/
theorem lt_length_toDigits {k n : Nat} (hk : 0 < k) (h : Nat.pow 10 k ≤ n) :
    k < (Nat.toDigits 10 n).length := by
  rw [← Nat.not_le, Nat.length_toDigits_le_iff (by decide) hk]
  exact Nat.not_lt.mpr h

/-! ## Reading written numbers -/

/-- Digits have no sign in front. -/
theorem splitSign_of_isDigit {d : Char} (h : d.isDigit = true) (more : List Char) :
    splitSign (d :: more) = (false, d :: more) := by
  unfold splitSign
  split
  · rename_i hSplit
    exact absurd (List.cons.inj hSplit).1 (Text.ne_of_isDigit h (by decide))
  · rename_i hSplit
    exact absurd (List.cons.inj hSplit).1 (Text.ne_of_isDigit h (by decide))
  · rfl

theorem decimalValue?_of_isDigit {c : Char} (h : c.isDigit = true) :
    Text.decimalValue? c = some (c.toNat - 48) :=
  if_pos h

theorem isNumeralChar_of_isDigit {c : Char} (h : c.isDigit = true) : isNumeralChar c = true := by
  rw [isNumeralChar, decimalValue?_of_isDigit h]
  exact Bool.or_true _

theorem isMargin_of_isDigit {c : Char} (h : c.isDigit = true) : isMargin c = false := by
  have hCode := Text.isDigit_iff.mp h
  simp [isMargin, Text.isBlank]
  omega

/-- A run of digits is read digit by digit. -/
theorem digitRun?_of_isDigit {cs : List Char} (hSome : cs ≠ []) (h : ∀ c ∈ cs, c.isDigit = true) :
    digitRun? cs = some (cs.map fun c => c.toNat - 48) := by
  induction cs with
  | nil => exact absurd rfl hSome
  | cons c rest ih =>
    obtain ⟨hFirst, hRest⟩ := List.forall_mem_cons.mp h
    cases rest with
    | nil => rw [digitRun?, decimalValue?_of_isDigit hFirst, Option.map_some, List.map_singleton]
    | cons d rest =>
      have hNext : d ≠ '_' := Text.ne_of_isDigit (hRest d List.mem_cons_self) (by decide)
      rw [digitRun?, decimalValue?_of_isDigit hFirst, ih (List.cons_ne_nil _ _) hRest]
      · rfl
      · exact List.cons_ne_nil _ _
      · exact fun _ hSame => absurd (List.cons.inj hSame).1 hNext

/-- The decimal digits of a number are read as the number, unless there are too many. -/
theorem readInteger_repr (n : Nat) :
    readInteger (Nat.repr n) =
      if digitLimit < (Nat.toDigits 10 n).length then .error (.tooLong (Nat.toDigits 10 n).length)
      else .ok n := by
  have hDigits : ∀ c ∈ Nat.toDigits 10 n, c.isDigit = true := fun _ hc => isDigit_of_mem_toDigits hc
  have hRun := digitRun?_of_isDigit Nat.toDigits_ne_nil hDigits
  have hSpan : (Nat.toDigits 10 n).span isNumeralChar = (Nat.toDigits 10 n, []) := by
    have hNumeral : ∀ c ∈ Nat.toDigits 10 n, isNumeralChar c = true := fun c hc =>
      isNumeralChar_of_isDigit (hDigits c hc)
    rw [List.span_eq_takeWhile_dropWhile, List.takeWhile_eq_self_iff.mpr hNumeral,
      List.dropWhile_eq_nil_iff.mpr hNumeral]
  have hFront : splitSign ((Nat.toDigits 10 n).dropWhile isMargin) = (false, Nat.toDigits 10 n) := by
    obtain ⟨d, more, hChars, hDigit⟩ := exists_toDigits_eq_cons n
    rw [hChars, List.dropWhile_cons, isMargin_of_isDigit hDigit]
    exact splitSign_of_isDigit hDigit more
  simp only [readInteger, Nat.toList_repr, hFront, hSpan, hRun, List.length_map, List.all_nil, if_true,
    withSign, ofDigits_toDigits]
  rfl

/-! ## The length of numbers that were read -/

theorem decimalValue?_lt {c : Char} {d : Nat} (h : Text.decimalValue? c = some d) : d < 10 := by
  unfold Text.decimalValue? at h
  split_ifs at h with hAscii hCode
  · have hCode := Text.isDigit_iff.mp hAscii
    obtain rfl := Option.some.inj h
    omega
  · obtain ⟨start, hFind, rfl⟩ := Option.map_eq_some_iff.mp h
    have hBlock := List.find?_some hFind
    simp only [Bool.and_eq_true, decide_eq_true_eq] at hBlock
    omega

/-- All values in a run of digits are below ten. -/
theorem lt_of_mem_digitRun? {cs : List Char} {digits : List Nat} (h : digitRun? cs = some digits) :
    ∀ d ∈ digits, d < 10 := by
  fun_induction digitRun? cs generalizing digits with
  | case1 => cases h
  | case2 c =>
    obtain ⟨d, hFirst, rfl⟩ := Option.map_eq_some_iff.mp h
    simpa using decimalValue?_lt hFirst
  | case3 c rest ih =>
    simp only [Option.bind_eq_bind, Option.bind_eq_some_iff, Option.pure_def, Option.some.injEq] at h
    obtain ⟨d, hFirst, ds, hRest, rfl⟩ := h
    exact List.forall_mem_cons.mpr ⟨decimalValue?_lt hFirst, ih hRest⟩
  | case4 c rest _ _ ih =>
    simp only [Option.bind_eq_bind, Option.bind_eq_some_iff, Option.pure_def, Option.some.injEq] at h
    obtain ⟨d, hFirst, ds, hRest, rfl⟩ := h
    exact List.forall_mem_cons.mpr ⟨decimalValue?_lt hFirst, ih hRest⟩

/-- Digits that are read after a start stay below the next number with as many zeros. -/
theorem foldl_digits_lt {digits : List Nat} (h : ∀ d ∈ digits, d < 10) (start : Nat) :
    digits.foldl (fun n d => n * 10 + d) start < (start + 1) * 10 ^ digits.length := by
  induction digits generalizing start with
  | nil => simp
  | cons d digits ih =>
    obtain ⟨hFirst, hRest⟩ := List.forall_mem_cons.mp h
    calc (d :: digits).foldl (fun n d => n * 10 + d) start
        < (start * 10 + d + 1) * 10 ^ digits.length := ih hRest _
      _ ≤ (start + 1) * 10 * 10 ^ digits.length := Nat.mul_le_mul_right _ (by omega)
      _ = (start + 1) * 10 ^ (digits.length + 1) := by rw [Nat.mul_assoc, Nat.pow_succ']

/-- Digits denote less than a one with as many zeros. -/
theorem ofDigits_lt {digits : List Nat} (h : ∀ d ∈ digits, d < 10) :
    ofDigits digits < 10 ^ digits.length := by
  have hFold := foldl_digits_lt h 0
  rwa [Nat.zero_add, Nat.one_mul] at hFold

/-- The integers that are not too long are those below a certain power of ten. -/
theorem isLong_eq_false_iff {n : Int} : isLong n = false ↔ n.natAbs < 10 ^ digitLimit := by
  rw [isLong, decide_eq_false_iff_not, Nat.not_lt]
  exact Nat.length_toDigits_le_iff (by decide) (by decide)

/-- A number below a thousand is not too long. -/
theorem isLong_of_lt {n : Int} (h : n.natAbs < 10 ^ 3) : isLong n = false := by
  rw [isLong_eq_false_iff]
  exact Nat.lt_of_lt_of_le h (Nat.pow_le_pow_right (by decide) (by decide))

/-- The sign does not change the magnitude. -/
theorem natAbs_withSign (negative : Bool) (n : Nat) : (withSign negative n).natAbs = n := by
  cases negative <;> simp [withSign]

/-- No more digits than a numeral may have denote an integer that is not too long. -/
theorem isLong_ofDigits {negative : Bool} {digits : List Nat} (h : ∀ d ∈ digits, d < 10)
    (hLength : digits.length ≤ digitLimit) : isLong (withSign negative (ofDigits digits)) = false := by
  rw [isLong_eq_false_iff, natAbs_withSign]
  exact Nat.lt_of_lt_of_le (ofDigits_lt h) (Nat.pow_le_pow_right (by decide) hLength)

/-- An integer that was read can be written. -/
theorem isLong_of_readInteger {s : String} {n : Int} (h : readInteger s = .ok n) :
    isLong n = false := by
  unfold readInteger at h
  simp only at h
  split at h
  · cases h
  · rename_i digits hRun
    split_ifs at h with hLength
    · cases h
      exact isLong_ofDigits (lt_of_mem_digitRun? hRun) (Nat.not_lt.mp hLength)

end Number
end StableLocator
