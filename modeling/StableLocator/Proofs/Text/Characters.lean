import StableLocator.Text.Casing
import StableLocator.Text.Numeral

/-!
# Classes of characters

What the tables of letters and capitals say about ASCII, checked range by range:

* `isLetterOrNumeral_cases` — letters and numerals outside ASCII stand beyond its controls;
* `noCapitals_lower` — a text in lower case has no ASCII capital, so `lowerAscii` keeps it;
* `mem_lower` — a text in lower case has no new characters in front of the small letters.
-/

namespace StableLocator
namespace Text

theorem isUpper_iff {c : Char} : c.isUpper = true ↔ 65 ≤ c.toNat ∧ c.toNat ≤ 90 := by
  show decide (65 ≤ c.val ∧ c.val ≤ 90) = true ↔ _
  rw [decide_eq_true_eq, UInt32.le_iff_toNat_le, UInt32.le_iff_toNat_le]
  exact Iff.rfl

theorem isLower_iff {c : Char} : c.isLower = true ↔ 97 ≤ c.toNat ∧ c.toNat ≤ 122 := by
  show (decide (97 ≤ c.val) && decide (c.val ≤ 122)) = true ↔ _
  rw [Bool.and_eq_true, decide_eq_true_eq, decide_eq_true_eq, UInt32.le_iff_toNat_le,
    UInt32.le_iff_toNat_le]
  exact Iff.rfl

theorem isAlpha_iff {c : Char} :
    c.isAlpha = true ↔ 65 ≤ c.toNat ∧ c.toNat ≤ 90 ∨ 97 ≤ c.toNat ∧ c.toNat ≤ 122 := by
  show (c.isUpper || c.isLower) = true ↔ _
  rw [Bool.or_eq_true, isUpper_iff, isLower_iff]

theorem isDigit_iff {c : Char} : c.isDigit = true ↔ 48 ≤ c.toNat ∧ c.toNat ≤ 57 :=
  Char.isDigit_iff_toNat

theorem isUpper_eq_false_of_lt {c : Char} (h : 90 < c.toNat) : c.isUpper = false := by
  rw [Bool.eq_false_iff, Ne, isUpper_iff]
  omega

/-- A letter of ASCII is none of the other characters. -/
theorem ne_of_isAlpha {c d : Char} (hc : c.isAlpha = true) (hd : d.isAlpha = false) : c ≠ d := by
  rintro rfl
  rw [hc] at hd
  cases hd

/-- A digit of ASCII is none of the other characters. -/
theorem ne_of_isDigit {c d : Char} (hc : c.isDigit = true) (hd : d.isDigit = false) : c ≠ d := by
  rintro rfl
  rw [hc] at hd
  cases hd

theorem isUpper_of_isDigit {c : Char} (h : c.isDigit = true) : c.isUpper = false := by
  rw [isDigit_iff] at h
  rw [Bool.eq_false_iff, Ne, isUpper_iff]
  omega

theorem toNat_of_isAlphanum {c : Char} (h : c.isAlphanum = true) :
    48 ≤ c.toNat ∧ c.toNat ≤ 122 := by
  rw [Char.isAlphanum, Bool.or_eq_true, isAlpha_iff, isDigit_iff] at h
  omega

theorem toNat_ofNat {n : Nat} (h : n.isValidChar) : (Char.ofNat n).toNat = n := by
  rw [Char.ofNat, dif_pos h]
  rfl

/-! ## Letters and numerals -/

/-- A range that begins late holds no small number. -/
theorem Ranges.le_of_holds {ranges : Ranges} (least : Nat) {n : Nat}
    (hLeast : ranges.all (fun range => least ≤ range.1) = true) (h : ranges.holds n = true) :
    least ≤ n := by
  obtain ⟨range, hRange, hFirst, _⟩ := Ranges.holds_iff.1 h
  have hBound := List.all_eq_true.1 hLeast range hRange
  exact Nat.le_trans (of_decide_eq_true hBound) hFirst

/-- Letters outside ASCII stand beyond its controls. -/
theorem le_of_isLetter {c : Char} (hc : ¬c.toNat < 0x80) (h : isLetter c = true) :
    0xA0 ≤ c.toNat := by
  rw [isLetter, if_neg hc, Bool.or_eq_true, Bool.or_eq_true] at h
  rcases h with (h | h) | h
  · -- The first table has the ASCII letters, too.
    obtain ⟨range, hRange, hFirst, hLast⟩ := Ranges.holds_iff.1 h
    have hBound : ∀ range ∈ letterRangesA, range.2 < 0x80 ∨ 0xA0 ≤ range.1 := by decide +kernel
    rcases hBound range hRange with hLow | hHigh
    · omega
    · omega
  · exact Ranges.le_of_holds 0xA0 (by decide +kernel) h
  · exact Ranges.le_of_holds 0xA0 (by decide +kernel) h

/-- Decimal digits outside ASCII begin behind the control characters. -/
theorem le_of_decimalValue? {c : Char} (hc : ¬c.toNat < 0x80)
    (h : (decimalValue? c).isSome = true) : 0xA0 ≤ c.toNat := by
  have hDigit : c.isDigit = false := by
    rw [Bool.eq_false_iff, Ne, isDigit_iff]
    omega
  rw [decimalValue?, if_neg (by simp [hDigit]), if_neg hc, Option.isSome_map,
    List.find?_isSome] at h
  obtain ⟨start, hStart, hHolds⟩ := h
  -- Each run of ten digits is within ASCII or beyond the controls after it.
  have hBound : ∀ start ∈ decimalZeros, start + 10 ≤ 0x80 ∨ 0xA0 ≤ start := by decide
  simp only [Bool.and_eq_true, decide_eq_true_eq] at hHolds
  have := hBound start hStart
  omega

/-- A letter or numeral is an ASCII one or stands beyond the controls after ASCII. -/
theorem isLetterOrNumeral_cases {c : Char} (h : isLetterOrNumeral c = true) :
    c.isAlphanum = true ∨ 0xA0 ≤ c.toNat := by
  rw [isLetterOrNumeral] at h
  split at h
  · exact .inl h
  · rename_i hc
    rw [Bool.or_eq_true, Bool.or_eq_true] at h
    rcases h with (h | h) | h
    · exact .inr (le_of_isLetter hc h)
    · exact .inr (le_of_decimalValue? hc h)
    · exact .inr (Ranges.le_of_holds 0xA0 (by decide +kernel) h)

/-! ## Lower case -/

/-- What is checked for all codes of ASCII is so for its characters. -/
theorem ascii_forall {p : Char → Prop} (h : ∀ n < 0x80, p (Char.ofNat n)) {c : Char}
    (hc : c.toNat < 0x80) : p c := by
  have hCode := h c.toNat hc
  rwa [Char.ofNat_toNat] at hCode

theorem isUpper_toLower {c : Char} (h : c.toNat < 0x80) : c.toLower.isUpper = false :=
  ascii_forall (p := fun c => c.toLower.isUpper = false) (by decide) h

/-- The lower-case form of a capital outside ASCII is a character behind the first small letter. -/
theorem le_toNat_of_run {run : CaseRun} (hRun : run ∈ capitalsA ++ capitalsB) {n : Nat}
    (hHolds : run.holds n = true) : 97 ≤ (Char.ofNat (Int.toNat (n + run.shift))).toNat := by
  -- No run of capitals is moved in front of the small letters, or to numbers that are no characters.
  have hBound : ∀ run ∈ capitalsA ++ capitalsB, 97 ≤ (run.first : Int) + run.shift ∧
      ((run.last : Int) + run.shift < 0xD800 ∨
        0xDFFF < (run.first : Int) + run.shift ∧ (run.last : Int) + run.shift < 0x110000) := by
    decide +kernel
  obtain ⟨hLeast, hRange⟩ := hBound run hRun
  simp only [CaseRun.holds, Bool.and_eq_true, decide_eq_true_eq] at hHolds
  have hValid : (Int.toNat (n + run.shift)).isValidChar := by
    unfold Nat.isValidChar
    omega
  rw [toNat_ofNat hValid]
  omega

/-- The lower-case form of a character is the character or stands behind the first small letter. -/
theorem lowerChar_cases (c : Char) : lowerChar c = c ∨ 97 ≤ (lowerChar c).toNat := by
  unfold lowerChar
  by_cases hAscii : c.toNat < 0x80
  · rw [if_pos hAscii]
    exact ascii_forall (p := fun c => c.toLower = c ∨ 97 ≤ c.toLower.toNat) (by decide) hAscii
  by_cases hDotted : c.toNat = 0x130
  · rw [if_neg hAscii, if_pos hDotted]
    exact .inr (by decide)
  rw [if_neg hAscii, if_neg hDotted]
  cases hRun : (capitalsA ++ capitalsB).find? (·.holds c.toNat) with
  | none => exact .inl rfl
  | some run =>
    have hHolds := List.find?_some hRun
    exact .inr (le_toNat_of_run (List.mem_of_find?_eq_some hRun) hHolds)

/-- The lower-case form of a character is no ASCII capital. -/
theorem isUpper_lowerChar (c : Char) : (lowerChar c).isUpper = false := by
  by_cases hAscii : c.toNat < 0x80
  · rw [lowerChar, if_pos hAscii]
    exact isUpper_toLower hAscii
  · refine isUpper_eq_false_of_lt ?_
    rcases lowerChar_cases c with hSame | hBehind
    · rw [hSame]
      omega
    · omega

/-- A character of a text in lower case is the form of one of the text, apart from the two letters with
rules of their own. -/
theorem mem_lowerFrom {inWord : Bool} {cs : List Char} {d : Char} (h : d ∈ lowerFrom inWord cs) :
    (∃ c ∈ cs, d = lowerChar c) ∨ 97 ≤ d.toNat := by
  induction cs generalizing inWord with
  | nil => exact absurd h List.not_mem_nil
  | cons c rest ih =>
    -- A dotted capital I gives two characters and a capital sigma one of two.
    have hOwn : ∀ d ∈ ['i', Char.ofNat 0x307, 'ς', 'σ'], 97 ≤ d.toNat := by simp
    rw [lowerFrom] at h
    rcases List.mem_append.1 h with h | h
    · split at h
      · exact .inr (hOwn d (List.mem_append_left ['ς', 'σ'] h))
      · split at h
        · split at h
          · exact .inr (hOwn d (by simp [List.mem_singleton.1 h]))
          · exact .inr (hOwn d (by simp [List.mem_singleton.1 h]))
        · exact .inl ⟨c, List.mem_cons_self, List.mem_singleton.1 h⟩
    · refine (ih h).imp_left ?_
      rintro ⟨c', hc', hd⟩
      exact ⟨c', List.mem_cons_of_mem c hc', hd⟩

/-- No ASCII capital occurs in the text. -/
def NoCapitals (s : String) : Prop := ∀ c ∈ s.toList, c.isUpper = false

/-- Lower case has no ASCII capitals. -/
theorem noCapitals_lower (s : String) : NoCapitals (lower s) := by
  intro c h
  rw [lower] at h
  split at h
  · rename_i hPlain
    have hc := List.all_eq_true.1 hPlain c h
    simpa using (Bool.and_eq_true_iff.1 hc).2
  · rw [String.toList_ofList] at h
    rcases mem_lowerFrom h with ⟨d, _, rfl⟩ | hBehind
    · exact isUpper_lowerChar d
    · exact isUpper_eq_false_of_lt (by omega)

/-- A character of a text in lower case is one of the text, or stands behind the first small letter. -/
theorem mem_lower {s : String} {d : Char} (h : d ∈ (lower s).toList) :
    d ∈ s.toList ∨ 97 ≤ d.toNat := by
  rw [lower] at h
  split at h
  · exact .inl h
  · rw [String.toList_ofList] at h
    rcases mem_lowerFrom h with ⟨c, hc, rfl⟩ | hBehind
    · rcases lowerChar_cases c with hSame | hBehind
      · exact .inl (hSame.symm ▸ hc)
      · exact .inr hBehind
    · exact .inr hBehind

/-- A text that begins with an ASCII letter begins with one in lower case. -/
theorem lower_cons {s : String} {c : Char} {more : List Char} (hChars : s.toList = c :: more)
    (hFirst : c.isAlpha = true) :
    ∃ c' more', (lower s).toList = c' :: more' ∧ c'.isAlpha = true := by
  have hAscii : c.toNat < 0x80 := by
    rw [isAlpha_iff] at hFirst
    omega
  rw [lower]
  split
  · exact ⟨c, more, hChars, hFirst⟩
  · have hLower : c.toLower.isAlpha = true :=
      ascii_forall (p := fun c => c.isAlpha = true → c.toLower.isAlpha = true) (by decide) hAscii
        hFirst
    have hDotted : c ≠ 'İ' := ne_of_isAlpha hFirst (by decide)
    have hSigma : c ≠ 'Σ' := ne_of_isAlpha hFirst (by decide)
    rw [String.toList_ofList, hChars, lowerFrom, if_neg hDotted, if_neg hSigma, lowerChar,
      if_pos hAscii]
    exact ⟨c.toLower, _, rfl, hLower⟩

theorem toLower_eq_self {c : Char} (h : c.isUpper = false) : c.toLower = c := by
  refine dif_neg ?_
  intro hRange
  rw [Bool.eq_false_iff, Ne, isUpper_iff] at h
  exact h hRange

/-- A text without ASCII capitals is in lower case as far as ASCII goes. -/
theorem lowerAscii_eq_self {s : String} (h : NoCapitals s) : lowerAscii s = s := by
  rw [lowerAscii, List.map_congr_left fun c hc => toLower_eq_self (h c hc), List.map_id',
    String.ofList_toList]

end Text
end StableLocator
