import Mathlib.Data.List.Basic
import Mathlib.Data.List.TakeDrop
import StableLocator.Text.Blank

/-!
# Trimmed and collapsed texts

Trimming leaves a text alone that begins and ends with characters that are not blank, and a trimmed
text is one. Collapsing leaves a text alone that has white space only as single spaces between other
characters.

* `exists_margins`, `trimBoth_margins` — what trimming takes away and what it leaves;
* `WellSpaced` — there is no other white space;
* `collapse_eq_self_iff` — the collapsed texts are the well spaced ones;
* `collapse_intercalate` — they may be joined by single spaces.
-/

namespace StableLocator
namespace Text

/-- Nothing is trimmed from a list that begins with no blank. -/
theorem trimStart_eq_self {cs : List Char} (h : cs.head?.all fun c => !isBlank c) :
    trimStart cs = cs := by
  cases cs with
  | nil => rfl
  | cons c cs =>
    have hc : isBlank c = false := by simpa using h
    rw [trimStart, List.dropWhile_cons, if_neg (by simp [hc])]

theorem trimEnd_eq_self {cs : List Char} (h : cs.getLast?.all fun c => !isBlank c) :
    trimEnd cs = cs := by
  have hReverse : trimStart cs.reverse = cs.reverse :=
    trimStart_eq_self (by rwa [List.head?_reverse])
  rw [trimEnd, ← trimStart, hReverse, List.reverse_reverse]

/-- A text that begins and ends with characters that are not blank is trimmed already. -/
theorem trim_eq_self {s : String} (hFirst : s.toList.head?.all fun c => !isBlank c)
    (hLast : s.toList.getLast?.all fun c => !isBlank c) : trim s = s := by
  rw [trim, trimBoth, trimStart_eq_self hFirst, trimEnd_eq_self hLast, String.ofList_toList]

/-! ## Trimming twice -/

/-- A trimmed list begins with no blank. -/
theorem head?_trimStart (cs : List Char) : (trimStart cs).head?.all fun c => !isBlank c := by
  have hFirst := List.head?_dropWhile_not isBlank cs
  rw [trimStart]
  cases hHead : (cs.dropWhile isBlank).head? with
  | none => rfl
  | some c =>
    rw [hHead] at hFirst
    simpa using hFirst

theorem getLast?_trimEnd (cs : List Char) : (trimEnd cs).getLast?.all fun c => !isBlank c := by
  rw [trimEnd, List.getLast?_reverse]
  exact head?_trimStart cs.reverse

theorem trimEnd_isPrefix (cs : List Char) : trimEnd cs <+: cs := by
  rw [trimEnd, ← List.reverse_suffix, List.reverse_reverse]
  exact List.dropWhile_suffix isBlank

/-- Trimming leaves a part of the list. -/
theorem trimBoth_isInfix (cs : List Char) : trimBoth cs <:+: cs :=
  (trimEnd_isPrefix _).isInfix.trans (List.dropWhile_suffix isBlank).isInfix

/-- Blanks at the end are not at the start, unless there is nothing else. -/
theorem head?_trimEnd {cs : List Char} (h : cs.head?.all fun c => !isBlank c) :
    (trimEnd cs).head?.all fun c => !isBlank c := by
  obtain ⟨after, hText⟩ := trimEnd_isPrefix cs
  cases hTrimmed : trimEnd cs with
  | nil => rfl
  | cons c more =>
    rw [hTrimmed] at hText
    rwa [← hText] at h

/-- Trimming twice is trimming once. -/
theorem trim_trim (s : String) : trim (trim s) = trim s := by
  have hText : (trim s).toList = trimEnd (trimStart s.toList) := by
    rw [trim, String.toList_ofList, trimBoth]
  apply trim_eq_self
  · rw [hText]
    exact head?_trimEnd (head?_trimStart s.toList)
  · rw [hText]
    exact getLast?_trimEnd _

/-! ## Margins -/

/-- Every text is a trimmed one between blanks. -/
theorem exists_margins (cs : List Char) :
    ∃ before after, cs = before ++ (trimBoth cs ++ after) ∧ (∀ c ∈ before, isBlank c = true) ∧
      ∀ c ∈ after, isBlank c = true := by
  refine ⟨cs.takeWhile isBlank, ((trimStart cs).reverse.takeWhile isBlank).reverse, ?_, ?_, ?_⟩
  · have hEnd : trimBoth cs ++ ((trimStart cs).reverse.takeWhile isBlank).reverse = trimStart cs := by
      rw [trimBoth, trimEnd, ← List.reverse_append, List.takeWhile_append_dropWhile,
        List.reverse_reverse]
    rw [hEnd]
    exact List.takeWhile_append_dropWhile.symm
  · exact List.all_eq_true.mp List.all_takeWhile
  · intro c hc
    exact List.all_eq_true.mp List.all_takeWhile c (List.mem_reverse.mp hc)

/-- Blanks around a text that begins and ends with words are trimmed away, and nothing else is. -/
theorem trimBoth_margins {before cs after : List Char} (hBefore : ∀ c ∈ before, isBlank c = true)
    (hAfter : ∀ c ∈ after, isBlank c = true) (hFirst : ∃ word more, IsWord word ∧ cs = word ++ more)
    (hLast : ∃ more word, IsWord word ∧ cs = more ++ word) :
    trimBoth (before ++ (cs ++ after)) = cs := by
  have hStart : trimStart (before ++ (cs ++ after)) = cs ++ after := by
    obtain ⟨word, more, ⟨hSome, hInk⟩, rfl⟩ := hFirst
    obtain ⟨c, word, rfl⟩ := List.exists_cons_of_ne_nil hSome
    rw [trimStart, List.dropWhile_append_of_pos hBefore, ← trimStart]
    apply trimStart_eq_self
    simp [hInk c List.mem_cons_self]
  have hEnd : trimEnd (cs ++ after) = trimEnd cs := by
    have hBlank : ∀ c ∈ after.reverse, isBlank c = true := fun c hc =>
      hAfter c (List.mem_reverse.mp hc)
    rw [trimEnd, List.reverse_append, List.dropWhile_append_of_pos hBlank, trimEnd]
  have hKept : trimEnd cs = cs := by
    obtain ⟨more, word, ⟨hSome, hInk⟩, rfl⟩ := hLast
    apply trimEnd_eq_self
    rw [List.getLast?_append_of_ne_nil more hSome, List.getLast?_eq_some_getLast hSome]
    simp [hInk _ (List.getLast_mem hSome)]
  rw [trimBoth, hStart, hEnd, hKept]

def blankCodes : List Nat :=
  List.range' 9 5 ++ List.range' 0x1C 5 ++ [0x85, 0xA0, 0x1680] ++ List.range' 0x2000 11 ++
    [0x2028, 0x2029, 0x202F, 0x205F, 0x3000]

theorem toNat_mem_blankCodes {c : Char} (h : isBlank c = true) : c.toNat ∈ blankCodes := by
  simp [isBlank] at h
  simp [blankCodes]
  omega

/-! ## Collapsed texts -/

/-- White space at the end belongs to no word. -/
theorem words_concat_blank {c : Char} (h : isBlank c = true) (cs : List Char) :
    words (cs ++ [c]) = words cs := by
  have hStarts (rest : List Char) : startsWord (rest ++ [c]) = startsWord rest := by
    cases rest with
    | nil => simp [startsWord, h]
    | cons d rest => rfl
  induction cs with
  | nil => exact words_cons_blank h []
  | cons d cs ih => rw [List.cons_append, words, words, hStarts, ih]

/-- A line feed at the end collapses away. -/
theorem collapse_append_lineFeed (s : String) : collapse (s ++ "\n") = collapse s := by
  have hChars : (s ++ "\n").toList = s.toList ++ ['\n'] := by
    rw [String.toList_append]
    rfl
  rw [collapse, hChars, words_concat_blank (by decide), collapse]

/-- A character of joined words is a space or in a word. -/
theorem mem_joinWords {ws : List (List Char)} {c : Char} (h : c ∈ joinWords ws) :
    c = ' ' ∨ ∃ word ∈ ws, c ∈ word := by
  induction ws with
  | nil => cases h
  | cons word ws ih =>
    cases ws with
    | nil => exact .inr ⟨word, List.mem_cons_self, h⟩
    | cons next ws =>
      have hParts : c ∈ word ++ ' ' :: joinWords (next :: ws) := h
      rw [List.mem_append, List.mem_cons] at hParts
      rcases hParts with h | rfl | h
      · exact .inr ⟨word, List.mem_cons_self, h⟩
      · exact .inl rfl
      · rcases ih h with rfl | ⟨found, hFound, hc⟩
        · exact .inl rfl
        · exact .inr ⟨found, List.mem_cons_of_mem _ hFound, hc⟩

theorem joinWords_cons {word : List Char} {ws : List (List Char)} (h : ws ≠ []) :
    joinWords (word :: ws) = word ++ ' ' :: joinWords ws := by
  cases ws with
  | nil => exact absurd rfl h
  | cons next ws => rfl

/-- Joined words of two parts have a space between them. -/
theorem joinWords_append {xs ys : List (List Char)} (hx : xs ≠ []) (hy : ys ≠ []) :
    joinWords (xs ++ ys) = joinWords xs ++ ' ' :: joinWords ys := by
  induction xs with
  | nil => exact absurd rfl hx
  | cons word xs ih =>
    cases xs with
    | nil => exact joinWords_cons hy
    | cons next xs =>
      have hMore := ih (List.cons_ne_nil _ _)
      rw [List.cons_append, joinWords_cons (List.append_ne_nil_of_left_ne_nil (List.cons_ne_nil _ _) _),
        hMore, joinWords_cons (List.cons_ne_nil _ _), List.append_assoc, List.cons_append]

/-! ## Well spaced texts -/

/-- White space stands only between other characters, as a single space each time. -/
def WellSpaced (cs : List Char) : Prop :=
  ∀ before c after, cs = before ++ c :: after → isBlank c = true →
    c = ' ' ∧ (∃ d ∈ before.getLast?, isBlank d = false) ∧ ∃ d ∈ after.head?, isBlank d = false

theorem IsWord.getLast? {word : List Char} (h : IsWord word) :
    ∃ d ∈ word.getLast?, isBlank d = false :=
  ⟨_, List.getLast?_eq_some_getLast h.1, h.2 _ (List.getLast_mem h.1)⟩

theorem IsWord.head? {word : List Char} (h : IsWord word) (more : List Char) :
    ∃ d ∈ (word ++ more).head?, isBlank d = false := by
  obtain ⟨hSome, hInk⟩ := h
  cases word with
  | nil => exact absurd rfl hSome
  | cons c word => exact ⟨c, rfl, hInk c List.mem_cons_self⟩

/-- Joined words begin as the first of them does. -/
theorem head?_joinWords {ws : List (List Char)} (h : ∀ word ∈ ws, IsWord word) (hSome : ws ≠ []) :
    ∃ d ∈ (joinWords ws).head?, isBlank d = false := by
  cases ws with
  | nil => exact absurd rfl hSome
  | cons word ws =>
    have hWord := h word List.mem_cons_self
    cases ws with
    | nil => simpa [joinWords] using hWord.head? []
    | cons next ws => exact hWord.head? _

theorem WellSpaced.of_isWord {word : List Char} (h : IsWord word) : WellSpaced word := by
  intro before c after hChars hBlank
  have hInk := h.2 c (hChars ▸ List.mem_append_right before List.mem_cons_self)
  rw [hBlank] at hInk
  cases hInk

/-- A word, a space, and a well spaced text that does not begin with white space. -/
theorem WellSpaced.append {word cs : List Char} (hWord : IsWord word) (h : WellSpaced cs)
    (hFirst : ∃ d ∈ cs.head?, isBlank d = false) : WellSpaced (word ++ ' ' :: cs) := by
  intro before c after hChars hBlank
  -- The blank stands behind the word, either between it and the rest or in the rest, or it stands in
  -- the word.
  rcases List.append_eq_append_iff.mp hChars with ⟨between, rfl, hRest⟩ | ⟨between, rfl, hRest⟩
  · cases between with
    | nil =>
      obtain ⟨rfl, rfl⟩ := List.cons.inj hRest
      rw [List.append_nil]
      exact ⟨rfl, hWord.getLast?, hFirst⟩
    | cons space between =>
      obtain ⟨_, hLater⟩ := List.cons.inj hRest
      obtain ⟨hSpace, ⟨d, hd, hInk⟩, hNext⟩ := h _ _ _ hLater hBlank
      refine ⟨hSpace, ⟨d, ?_, hInk⟩, hNext⟩
      have hMore : between ≠ [] := by
        rintro rfl
        cases hd
      rw [List.append_cons, List.getLast?_append_of_ne_nil _ hMore]
      exact hd
  · cases between with
    | nil =>
      obtain ⟨rfl, rfl⟩ := List.cons.inj hRest
      rw [List.append_nil] at hWord
      exact ⟨rfl, hWord.getLast?, hFirst⟩
    | cons d between =>
      obtain ⟨rfl, _⟩ := List.cons.inj hRest
      have hInk := hWord.2 c (List.mem_append_right before List.mem_cons_self)
      rw [hBlank] at hInk
      cases hInk

/-- Words that are joined are well spaced. -/
theorem wellSpaced_joinWords {ws : List (List Char)} (h : ∀ word ∈ ws, IsWord word) :
    WellSpaced (joinWords ws) := by
  induction ws with
  | nil =>
    intro before c after hChars
    simp [joinWords] at hChars
  | cons word ws ih =>
    obtain ⟨hWord, hMore⟩ := List.forall_mem_cons.mp h
    cases ws with
    | nil => exact .of_isWord hWord
    | cons next ws =>
      rw [joinWords_cons (List.cons_ne_nil _ _)]
      exact .append hWord (ih hMore) (head?_joinWords hMore (List.cons_ne_nil _ _))

/-- The rest of a well spaced text is well spaced, unless it begins with white space. -/
theorem WellSpaced.of_append {front cs : List Char} (h : WellSpaced (front ++ cs))
    (hFirst : ∃ d ∈ cs.head?, isBlank d = false) : WellSpaced cs := by
  intro before c after hChars hBlank
  subst hChars
  obtain ⟨hSpace, ⟨d, hd, hInk⟩, hNext⟩ :=
    h (front ++ before) c after (List.append_assoc ..).symm hBlank
  refine ⟨hSpace, ⟨d, ?_, hInk⟩, hNext⟩
  cases before with
  | nil =>
    obtain ⟨first, hHead, hOther⟩ := hFirst
    obtain rfl : c = first := Option.some.inj hHead
    rw [hBlank] at hOther
    cases hOther
  | cons first before =>
    rwa [List.getLast?_append_of_ne_nil _ (List.cons_ne_nil _ _)] at hd

theorem joinWords_joinFirst (c : Char) {ws : List (List Char)} (h : ws ≠ []) :
    joinWords (joinFirst c ws) = c :: joinWords ws := by
  cases ws with
  | nil => exact absurd rfl h
  | cons word ws =>
    rw [joinFirst]
    cases ws <;> rfl

/-- A list that begins with no blank has words. -/
theorem words_ne_nil {cs : List Char} (h : ∃ d ∈ cs.head?, isBlank d = false) : words cs ≠ [] := by
  obtain ⟨d, hd, hInk⟩ := h
  cases cs with
  | nil => cases hd
  | cons c cs =>
    obtain rfl : c = d := Option.some.inj hd
    rw [words, if_neg (by simp [hInk])]
    split
    · cases words cs <;> simp [joinFirst]
    · exact List.cons_ne_nil _ _

/-- A well spaced text begins with no white space. -/
theorem WellSpaced.head {c : Char} {cs : List Char} (h : WellSpaced (c :: cs)) :
    isBlank c = false := by
  by_contra hBlank
  obtain ⟨_, ⟨d, hd, _⟩, _⟩ := h [] c cs rfl (by simpa using hBlank)
  cases hd

/-- A well spaced text is its words joined. -/
theorem joinWords_words : ∀ {cs : List Char}, WellSpaced cs → joinWords (words cs) = cs
  | [], _ => rfl
  | [c], h => by
    rw [words, if_neg (by simp [h.head])]
    rfl
  | c :: d :: rest, h => by
    rw [words, if_neg (by simp [h.head])]
    cases hBlank : isBlank d with
    | false =>
      have hFirst : ∃ e ∈ (d :: rest).head?, isBlank e = false := ⟨d, rfl, hBlank⟩
      rw [if_pos (by simp [startsWord, hBlank]), joinWords_joinFirst c (words_ne_nil hFirst),
        joinWords_words (@WellSpaced.of_append [c] _ h hFirst)]
    | true =>
      -- The space stands before a word.
      obtain ⟨rfl, _, hFirst⟩ := h [c] d rest rfl hBlank
      rw [if_neg (by simp [startsWord, hBlank]), words_cons_blank hBlank,
        joinWords_cons (words_ne_nil hFirst), joinWords_words (@WellSpaced.of_append [c, ' '] _ h hFirst)]
      rfl

/-- The collapsed texts are the well spaced ones. -/
theorem collapse_eq_self_iff {s : String} : collapse s = s ↔ WellSpaced s.toList := by
  constructor
  · intro h
    rw [← h, collapse, String.toList_ofList]
    exact wellSpaced_joinWords fun _ => isWord_of_mem_words
  · intro h
    rw [collapse, joinWords_words h, String.ofList_toList]

/-- White space in a collapsed text is a space. -/
theorem eq_space_of_mem_collapsed {s : String} (h : collapse s = s) {c : Char} (hc : c ∈ s.toList)
    (hBlank : isBlank c = true) : c = ' ' := by
  obtain ⟨before, after, hChars⟩ := List.append_of_mem hc
  exact (collapse_eq_self_iff.mp h before c after hChars hBlank).1

/-- A collapsed text is its words with single spaces. -/
theorem words_collapsed {t : String} (hSome : t ≠ "") (h : collapse t = t) :
    words t.toList ≠ [] ∧ joinWords (words t.toList) = t.toList := by
  have hJoined := joinWords_words (collapse_eq_self_iff.mp h)
  refine ⟨fun hNone => hSome ?_, hJoined⟩
  rw [← h, collapse, hNone]
  rfl

/-- Collapsed texts that are joined by single spaces are collapsed, if none of them is empty. -/
theorem collapse_intercalate {texts : List String} (h : ∀ t ∈ texts, t ≠ "" ∧ collapse t = t) :
    collapse (" ".intercalate texts) = " ".intercalate texts := by
  -- The joined texts are the words of all of them, joined.
  have hChars : (" ".intercalate texts).toList = joinWords (texts.flatMap fun t => words t.toList) := by
    induction texts with
    | nil => rfl
    | cons t texts ih =>
      obtain ⟨⟨hSome, hText⟩, hMore⟩ := List.forall_mem_cons.mp h
      obtain ⟨hWords, hFirst⟩ := words_collapsed hSome hText
      cases texts with
      | nil => simp [hFirst]
      | cons u texts =>
        obtain ⟨hNext, _⟩ := words_collapsed (hMore u List.mem_cons_self).1 (hMore u List.mem_cons_self).2
        calc (" ".intercalate (t :: u :: texts)).toList
            = t.toList ++ ' ' :: (" ".intercalate (u :: texts)).toList := by
              rw [String.intercalate_cons_cons, String.toList_append, String.toList_append,
                List.append_assoc]
              rfl
          _ = joinWords (words t.toList) ++
                ' ' :: joinWords ((u :: texts).flatMap fun t => words t.toList) := by
              rw [hFirst, ih hMore]
          _ = joinWords ((t :: u :: texts).flatMap fun t => words t.toList) := by
              rw [List.flatMap_cons, List.flatMap_cons,
                ← joinWords_append hWords (List.append_ne_nil_of_left_ne_nil hNext _)]
              rfl
  rw [collapse, hChars, words_joinWords, ← hChars, String.ofList_toList]
  intro word hWord
  obtain ⟨t, _, hMem⟩ := List.mem_flatMap.mp hWord
  exact isWord_of_mem_words hMem

end Text
end StableLocator
