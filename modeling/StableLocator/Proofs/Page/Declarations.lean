import StableLocator.Page.Visibility
import StableLocator.Proofs.Text.Pattern

/-!
# Declarations of inline styles

An inline style is searched for a hiding declaration from its start and from behind each semicolon on.
What is found there is one piece of the style between semicolons, without the blanks around it.

* `Style.Declares` — a piece declares a value of a property, and nothing else;
* `reads_hidingPattern_iff` — what is searched for is a hiding declaration between blanks;
* `hidesFrom_iff` — where a search that begins somewhere succeeds;
* `hides_iff` — a style hides an element just if one of its pieces declares so.
-/

namespace StableLocator
namespace Style

open Text (Pattern IsWord isBlank trimBoth)

variable {cs : List Char}

/-- The characters declare the value of the property, with any blanks around the colon. Blanks and a
note of importance may follow. -/
def Declares (property value : String) (cs : List Char) : Prop :=
  (.word property ++ .blanks ++ .word ":" ++ .blanks ++ .word value ++
    .optional (.blanks ++ .word "!important") : Pattern).Reads cs

/-- The characters declare that the element is not displayed or not visible. -/
def DeclaresHidden (cs : List Char) : Prop :=
  Declares "display" "none" cs ∨ Declares "visibility" "hidden" cs ∨
    Declares "visibility" "collapse" cs

/-! ## Declarations between blanks -/

/-- What hides is one of three declarations. -/
theorem reads_hidingDeclaration_iff :
    hidingDeclaration.Reads cs ↔
      (declaration "display" (.word "none")).Reads cs ∨
        (declaration "visibility" (.word "hidden")).Reads cs ∨
          (declaration "visibility" (.word "collapse")).Reads cs := by
  have hValue : (declaration "visibility" (.either (.word "hidden") (.word "collapse"))).Reads cs ↔
      (declaration "visibility" (.word "hidden")).Reads cs ∨
        (declaration "visibility" (.word "collapse")).Reads cs := by
    constructor
    · rintro ⟨front, back, hText, hFront, hBack | hBack⟩
      · exact .inl ⟨front, back, hText, hFront, hBack⟩
      · exact .inr ⟨front, back, hText, hFront, hBack⟩
    · rintro (⟨front, back, hText, hFront, hBack⟩ | ⟨front, back, hText, hFront, hBack⟩)
      · exact ⟨front, back, hText, hFront, .inl hBack⟩
      · exact ⟨front, back, hText, hFront, .inr hBack⟩
  exact or_congr Iff.rfl hValue

/-- A declaration that hides an element is one of these, with blanks and a note of importance behind
it or without. -/
theorem declaresHidden_iff :
    DeclaresHidden cs ↔ ∃ front back, cs = front ++ back ∧ hidingDeclaration.Reads front ∧
      (Pattern.optional (.blanks ++ .word "!important")).Reads back := by
  constructor
  · rintro (⟨front, back, hText, hFront, hBack⟩ | ⟨front, back, hText, hFront, hBack⟩ |
      ⟨front, back, hText, hFront, hBack⟩)
    · exact ⟨front, back, hText, reads_hidingDeclaration_iff.mpr (.inl hFront), hBack⟩
    · exact ⟨front, back, hText, reads_hidingDeclaration_iff.mpr (.inr (.inl hFront)), hBack⟩
    · exact ⟨front, back, hText, reads_hidingDeclaration_iff.mpr (.inr (.inr hFront)), hBack⟩
  · rintro ⟨front, back, hText, hFront, hBack⟩
    rcases reads_hidingDeclaration_iff.mp hFront with hFront | hFront | hFront
    · exact .inl ⟨front, back, hText, hFront, hBack⟩
    · exact .inr (.inl ⟨front, back, hText, hFront, hBack⟩)
    · exact .inr (.inr ⟨front, back, hText, hFront, hBack⟩)

/-- A declaration begins with the word for its property and ends with a word. -/
theorem Declares.words {property value : String} (hProperty : Pattern.isInked property = true)
    (hValue : Pattern.isInked value = true) (h : Declares property value cs) :
    (∃ word more, IsWord word ∧ cs = word ++ more) ∧
      ∃ more word, IsWord word ∧ cs = more ++ word := by
  obtain ⟨_, note, rfl, ⟨_, last, rfl, ⟨_, after, rfl, ⟨_, colon, rfl, ⟨first, before, rfl, hFirst, _⟩, _⟩,
    _⟩, hLast⟩, hNote⟩ := h
  refine ⟨⟨first, before ++ (colon ++ (after ++ (last ++ note))), hFirst.isWord hProperty, ?_⟩, ?_⟩
  · simp only [List.append_assoc]
  · rcases hNote with rfl | ⟨gap, important, rfl, _, hImportant⟩
    · exact ⟨_, last, hLast.isWord hValue, List.append_nil _⟩
    · exact ⟨_, important, hImportant.isWord (by decide +kernel), (List.append_assoc _ _ _).symm⟩

/-- A declaration that hides begins and ends with words. -/
theorem DeclaresHidden.words (h : DeclaresHidden cs) :
    (∃ word more, IsWord word ∧ cs = word ++ more) ∧
      ∃ more word, IsWord word ∧ cs = more ++ word := by
  rcases h with h | h | h
  · exact h.words (by decide +kernel) (by decide +kernel)
  · exact h.words (by decide +kernel) (by decide +kernel)
  · exact h.words (by decide +kernel) (by decide +kernel)

/-- What is searched for is a hiding declaration between blanks. -/
theorem reads_hidingPattern_iff : hidingPattern.Reads cs ↔ DeclaresHidden (trimBoth cs) := by
  constructor
  · rintro ⟨_, last, rfl, ⟨_, note, rfl, ⟨_, gap, rfl, ⟨first, front, rfl, hFirst, hFront⟩, hGap⟩,
      hNote⟩, hLast⟩
    -- Blanks in front of a note belong to the declaration; without a note they are trimmed away.
    rcases hNote with rfl | hNote
    · have hDeclares : DeclaresHidden front :=
        declaresHidden_iff.mpr ⟨front, [], (List.append_nil front).symm, hFront, .inl rfl⟩
      have hBehind : ∀ c ∈ gap ++ last, isBlank c = true := fun c hc =>
        (List.mem_append.mp hc).elim (hGap c) (hLast c)
      have hTrim := Text.trimBoth_margins hFirst hBehind hDeclares.words.1 hDeclares.words.2
      simpa only [List.append_nil, List.append_assoc, hTrim] using hDeclares
    · have hDeclares : DeclaresHidden (front ++ (gap ++ note)) :=
        declaresHidden_iff.mpr ⟨front, gap ++ note, rfl, hFront, .inr (hGap.append hNote)⟩
      have hTrim := Text.trimBoth_margins hFirst hLast hDeclares.words.1 hDeclares.words.2
      simp only [List.append_assoc] at hTrim ⊢
      rwa [hTrim]
  · intro h
    obtain ⟨before, after, hText, hBefore, hAfter⟩ := Text.exists_margins cs
    obtain ⟨front, back, hTrim, hFront, hBack⟩ := declaresHidden_iff.mp h
    have hBegin : (Pattern.blanks ++ hidingDeclaration).Reads (before ++ front) :=
      Pattern.Reads.append hBefore hFront
    have hNone : Pattern.blanks.Reads [] := by simp [Pattern.Reads]
    have hEnd : Pattern.blanks.Reads after := hAfter
    rw [hText, hTrim]
    rcases hBack with rfl | ⟨gap, note, rfl, hGap, hNote⟩
    · have hNoNote : (Pattern.optional (.word "!important")).Reads [] := .inl rfl
      have hAll : hidingPattern.Reads (before ++ front ++ [] ++ [] ++ after) :=
        ((hBegin.append hNone).append hNoNote).append hEnd
      simpa only [List.append_nil, List.append_assoc] using hAll
    · have hWithNote : (Pattern.optional (.word "!important")).Reads note := .inr hNote
      have hAll : hidingPattern.Reads (before ++ front ++ gap ++ note ++ after) :=
        ((hBegin.append hGap).append hWithNote).append hEnd
      simpa only [List.append_assoc] using hAll

/-! ## The search -/

/-- Blanks behind what is searched for belong to it. -/
theorem reads_hidingPattern_append {blanks : List Char} (h : hidingPattern.Reads cs)
    (hBlanks : ∀ c ∈ blanks, isBlank c = true) : hidingPattern.Reads (cs ++ blanks) := by
  obtain ⟨front, last, rfl, hFront, hLast⟩ := h
  refine ⟨front, last ++ blanks, List.append_assoc front last blanks, hFront, ?_⟩
  intro c hc
  exact (List.mem_append.mp hc).elim (hLast c) (hBlanks c)

/-- Where a declaration may end, only blanks come before the next semicolon. -/
theorem isBlank_of_endsDeclaration (h : endsDeclaration cs = true) :
    ∀ c ∈ cs.takeWhile (· != ';'), isBlank c = true := by
  unfold endsDeclaration at h
  split at h
  · simp
  · exact List.all_eq_true.mp (by decide)
  · rw [beq_iff_eq] at h
    simp [h]

/-- The search that begins here succeeds if what comes before the next semicolon declares the element
hidden, apart from blanks. -/
theorem hidesFrom_iff :
    hidesFrom cs = true ↔ DeclaresHidden (trimBoth (cs.takeWhile (· != ';'))) := by
  rw [hidesFrom, List.any_eq_true, ← reads_hidingPattern_iff]
  constructor
  · rintro ⟨rest, hRest, hEnds⟩
    obtain ⟨front, rfl, hFront⟩ := Pattern.mem_rests_iff.mp hRest
    -- There is no semicolon in what was found, so the next one comes behind it.
    have hInner : ∀ c ∈ front, (c != ';') = true := by
      intro c hc
      rw [bne_iff_ne]
      rintro rfl
      exact hFront.not_mem (by decide +kernel) hc
    rw [List.takeWhile_append_of_pos hInner]
    exact reads_hidingPattern_append hFront (isBlank_of_endsDeclaration hEnds)
  · intro h
    refine ⟨cs.dropWhile (· != ';'), ?_, ?_⟩
    · exact Pattern.mem_rests_iff.mpr ⟨_, List.takeWhile_append_dropWhile.symm, h⟩
    · have hNext := List.head?_dropWhile_not (· != ';') cs
      cases hRest : cs.dropWhile (· != ';') with
      | nil => rfl
      | cons c rest =>
        rw [hRest, List.head?_cons] at hNext
        have hc : c = ';' := by simpa using hNext
        subst hc
        cases rest <;> rfl

/-- Pieces between separators begin with the text and behind each separator, and each of them ends
before the next one. -/
theorem splitOn_eq_map (separator : Char) (cs : List Char) :
    cs.splitOn separator = (cs :: behindEach separator cs).map (List.takeWhile (· != separator)) := by
  induction cs with
  | nil => rfl
  | cons c cs ih =>
    have hStep : (c :: cs).splitOn separator =
        if c == separator then [] :: cs.splitOn separator
        else (cs.splitOn separator).modifyHead (List.cons c) :=
      List.splitOnP_cons_eq_if_modifyHead c cs
    rw [hStep, ih, behindEach]
    by_cases hc : c = separator
    · simp [hc]
    · simp [hc]

/-- A style hides an element just if one of its pieces between semicolons, without the blanks around
it, declares that the element is not displayed or not visible, and nothing else. -/
theorem hides_iff (style : String) :
    hides style = true ↔
      ∃ piece ∈ style.toList.splitOn ';',
        Declares "display" "none" (trimBoth piece) ∨ Declares "visibility" "hidden" (trimBoth piece) ∨
          Declares "visibility" "collapse" (trimBoth piece) := by
  rw [hides, List.any_eq_true, splitOn_eq_map]
  constructor
  · rintro ⟨start, hStart, hHides⟩
    exact ⟨_, List.mem_map_of_mem hStart, hidesFrom_iff.mp hHides⟩
  · rintro ⟨_, hPiece, hDeclares⟩
    obtain ⟨start, hStart, rfl⟩ := List.mem_map.mp hPiece
    exact ⟨start, hStart, hidesFrom_iff.mpr hDeclares⟩

/-- Empty pieces do not matter, and neither does what only contains a declaration. -/
example :
    hides "color: red;; DISPLAY : none !important ;" = true ∧
      hides "xdisplay:none; display:none-ish" = false := by
  decide +kernel

end Style
end StableLocator
