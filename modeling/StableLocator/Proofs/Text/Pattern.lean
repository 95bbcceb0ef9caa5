import StableLocator.Proofs.Text.Blank
import StableLocator.Text.Pattern

/-!
# Texts of a pattern

A pattern describes texts, whatever way of matching is tried first. What is left behind it in a longer
text is the rest behind one of these texts.

* `Pattern.Reads` — the pattern describes a text;
* `Pattern.mem_rests_iff` — trying the ways one by one finds every such text and no other;
* `Pattern.Reads.not_mem`, `Pattern.Reads.isWord` — characters that no text of a pattern has.
-/

namespace StableLocator
namespace Text

/-- A word is found in any case at the start of a text just if the text begins with a word alike. -/
theorem afterAlike?_eq_some_iff {word cs rest : List Char} :
    afterAlike? word cs = some rest ↔ ∃ front, cs = front ++ rest ∧ alikeAll word front = true := by
  -- Word and text are gone through together.
  induction word generalizing cs with
  | nil =>
    constructor
    · intro h
      exact ⟨[], (Option.some.inj h), rfl⟩
    · rintro ⟨front, rfl, hAlike⟩
      cases front with
      | nil => rfl
      | cons c front => cases hAlike
  | cons w word ih =>
    cases cs with
    | nil =>
      constructor
      · intro h
        cases h
      · rintro ⟨front, hText, hAlike⟩
        obtain ⟨rfl, rfl⟩ := List.append_eq_nil_iff.mp hText.symm
        cases hAlike
    | cons c cs =>
      constructor
      · intro h
        rw [afterAlike?] at h
        split at h
        · rename_i hFirst
          obtain ⟨front, rfl, hAlike⟩ := ih.mp h
          refine ⟨c :: front, rfl, ?_⟩
          rw [alikeAll, hFirst, hAlike, Bool.and_self]
        · cases h
      · rintro ⟨front, hText, hAlike⟩
        cases front with
        | nil => cases hAlike
        | cons d front =>
          obtain ⟨rfl, rfl⟩ := List.cons.inj hText
          rw [alikeAll, Bool.and_eq_true] at hAlike
          rw [afterAlike?, if_pos hAlike.1]
          exact ih.mpr ⟨front, rfl, hAlike.2⟩

namespace Pattern

/-- The pattern describes this text. -/
def Reads : Pattern → List Char → Prop
  | word text, cs => alikeAll text.toList cs = true
  | blanks, cs => ∀ c ∈ cs, isBlank c = true
  | both first second, cs => ∃ front back, cs = front ++ back ∧ first.Reads front ∧ second.Reads back
  | either one other, cs => one.Reads cs ∨ other.Reads cs
  | optional part, cs => cs = [] ∨ part.Reads cs

/-- Two patterns in a row describe two parts in a row. -/
theorem reads_append {first second : Pattern} {cs : List Char} :
    (first ++ second).Reads cs ↔
      ∃ front back, cs = front ++ back ∧ first.Reads front ∧ second.Reads back :=
  Iff.rfl

/-- A text of one pattern and a text of another one make up a text of both. -/
theorem Reads.append {first second : Pattern} {front back : List Char} (hFirst : first.Reads front)
    (hSecond : second.Reads back) : (first ++ second).Reads (front ++ back) :=
  reads_append.mpr ⟨front, back, rfl, hFirst, hSecond⟩

/-! ## Trying all ways -/

/-- What is left behind blanks has only blanks before it. -/
theorem mem_restsOfBlanks_iff {cs rest : List Char} :
    rest ∈ restsOfBlanks cs ↔ ∃ front, cs = front ++ rest ∧ ∀ c ∈ front, isBlank c = true := by
  induction cs with
  | nil =>
    rw [restsOfBlanks, List.mem_singleton]
    constructor
    · rintro rfl
      exact ⟨[], rfl, by simp⟩
    · rintro ⟨front, hText, _⟩
      exact (List.append_eq_nil_iff.mp hText.symm).2
  | cons c cs ih =>
    -- The run of blanks is empty, or its first character is blank and the rest of it is a run.
    have hRun : (∃ front, c :: cs = front ++ rest ∧ ∀ d ∈ front, isBlank d = true) ↔
        rest = c :: cs ∨ isBlank c = true ∧ rest ∈ restsOfBlanks cs := by
      rw [ih]
      constructor
      · rintro ⟨front, hText, hBlank⟩
        cases front with
        | nil => exact .inl hText.symm
        | cons d front =>
          obtain ⟨rfl, rfl⟩ := List.cons.inj hText
          obtain ⟨hFirst, hMore⟩ := List.forall_mem_cons.mp hBlank
          exact .inr ⟨hFirst, front, rfl, hMore⟩
      · rintro (rfl | ⟨hFirst, front, rfl, hMore⟩)
        · exact ⟨[], rfl, by simp⟩
        · exact ⟨c :: front, rfl, List.forall_mem_cons.mpr ⟨hFirst, hMore⟩⟩
    rw [hRun, restsOfBlanks]
    split
    · rename_i hBlank
      rw [List.mem_append, List.mem_singleton, or_comm]
      simp only [hBlank, true_and]
    · rename_i hInk
      rw [List.mem_singleton]
      exact (or_iff_left fun hRun => hInk hRun.1).symm

/-- What is left behind the pattern is what is left behind a text that it describes. -/
theorem mem_rests_iff {p : Pattern} {cs rest : List Char} :
    rest ∈ p.rests cs ↔ ∃ front, cs = front ++ rest ∧ p.Reads front := by
  -- One case for each kind of pattern, as the ways to read it are listed.
  induction p generalizing cs rest with
  | word text =>
    rw [rests, Option.mem_toList]
    exact afterAlike?_eq_some_iff
  | blanks => exact mem_restsOfBlanks_iff
  | both first second ihFirst ihSecond =>
    rw [rests, List.mem_flatMap]
    constructor
    · rintro ⟨middle, hFirst, hSecond⟩
      obtain ⟨front, rfl, hFront⟩ := ihFirst.mp hFirst
      obtain ⟨back, rfl, hBack⟩ := ihSecond.mp hSecond
      exact ⟨front ++ back, (List.append_assoc front back rest).symm, hFront.append hBack⟩
    · rintro ⟨_, rfl, front, back, rfl, hFront, hBack⟩
      refine ⟨back ++ rest, ihFirst.mpr ⟨front, ?_, hFront⟩, ihSecond.mpr ⟨back, rfl, hBack⟩⟩
      exact List.append_assoc front back rest
  | either one other ihOne ihOther =>
    rw [rests, List.mem_append, ihOne, ihOther]
    constructor
    · rintro (⟨front, hText, hFront⟩ | ⟨front, hText, hFront⟩)
      · exact ⟨front, hText, .inl hFront⟩
      · exact ⟨front, hText, .inr hFront⟩
    · rintro ⟨front, hText, hFront | hFront⟩
      · exact .inl ⟨front, hText, hFront⟩
      · exact .inr ⟨front, hText, hFront⟩
  | optional part ih =>
    rw [rests, List.mem_append, List.mem_singleton, ih]
    constructor
    · rintro (⟨front, hText, hFront⟩ | rfl)
      · exact ⟨front, hText, .inr hFront⟩
      · exact ⟨[], rfl, .inl rfl⟩
    · rintro ⟨front, rfl, rfl | hFront⟩
      · exact .inr rfl
      · exact .inl ⟨front, rfl, hFront⟩

/-! ## Characters of a text -/

/-- Nothing in the pattern is like the character. -/
def spares (c : Char) : Pattern → Bool
  | word text => text.toList.all fun w => !alike w c
  | blanks => !isBlank c
  | both first second => first.spares c && second.spares c
  | either one other => one.spares c && other.spares c
  | optional part => part.spares c

/-- A character that nothing in a word is like is in no word alike. -/
theorem not_mem_of_alikeAll {c : Char} {word cs : List Char}
    (hWord : word.all (fun w => !alike w c) = true) (h : alikeAll word cs = true) : c ∉ cs := by
  induction word generalizing cs with
  | nil =>
    cases cs with
    | nil => exact List.not_mem_nil
    | cons d cs => cases h
  | cons w word ih =>
    cases cs with
    | nil => cases h
    | cons d cs =>
      rw [alikeAll, Bool.and_eq_true] at h
      rw [List.all_cons, Bool.and_eq_true] at hWord
      intro hMem
      rcases List.mem_cons.mp hMem with rfl | hMem
      · rw [h.1] at hWord
        cases hWord.1
      · exact ih hWord.2 h.2 hMem

/-- A character that is like nothing in the pattern is in none of its texts. -/
theorem Reads.not_mem {c : Char} {p : Pattern} (hSpares : p.spares c = true) {cs : List Char}
    (h : p.Reads cs) : c ∉ cs := by
  induction p generalizing cs with
  | word text => exact not_mem_of_alikeAll hSpares h
  | blanks =>
    intro hMem
    rw [spares, h c hMem] at hSpares
    cases hSpares
  | both first second ihFirst ihSecond =>
    obtain ⟨front, back, rfl, hFront, hBack⟩ := h
    rw [spares, Bool.and_eq_true] at hSpares
    intro hMem
    rcases List.mem_append.mp hMem with hMem | hMem
    · exact ihFirst hSpares.1 hFront hMem
    · exact ihSecond hSpares.2 hBack hMem
  | either one other ihOne ihOther =>
    rw [spares, Bool.and_eq_true] at hSpares
    rcases h with h | h
    · exact ihOne hSpares.1 h
    · exact ihOther hSpares.2 h
  | optional part ih =>
    rcases h with rfl | h
    · exact List.not_mem_nil
    · exact ih hSpares h

/-- The word has characters, and none of them is like a blank. -/
def isInked (text : String) : Bool :=
  text != "" && blankCodes.all fun n => (word text).spares (Char.ofNat n)

/-- A word without blanks is a word in any case. -/
theorem Reads.isWord {text : String} (hText : isInked text = true) {cs : List Char}
    (h : (word text).Reads cs) : IsWord cs := by
  rw [isInked, Bool.and_eq_true, bne_iff_ne, List.all_eq_true] at hText
  obtain ⟨hSome, hInk⟩ := hText
  constructor
  · rintro rfl
    cases hChars : text.toList with
    | nil => exact hSome (String.toList_eq_nil_iff.mp hChars)
    | cons w word =>
      rw [Reads, hChars] at h
      cases h
  · intro c hc
    rw [Bool.eq_false_iff]
    intro hBlank
    -- A blank of the word would be one of the characters that it spares.
    have hSpares := hInk c.toNat (toNat_mem_blankCodes hBlank)
    rw [Char.ofNat_toNat] at hSpares
    exact h.not_mem hSpares hc

end Pattern
end Text
end StableLocator
