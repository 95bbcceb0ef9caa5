import Mathlib.Data.List.TakeDrop
import Mathlib.Data.Option.Basic
import StableLocator.Selector.Token

/-!
# What is left of a selector

A reader takes characters from the front of a selector and leaves the others as they are.

* `nameTail_suffix`, `readName?_suffix` — names;
* `skipBlanks_suffix`, `readCombinator?_suffix` — blanks, comments and combinators;
* `skipBlanks_keeps`, `marginLength_le` — those before or after a sign end before it;
* `skipBlanks_append`, `marginLength_append` — what they are does not depend on characters further off;
* `readType?_suffix`, `readProgression?_suffix`, `readState?_suffix` — types, states and functions.
-/

namespace StableLocator
namespace Selector

/-! ## Names -/

/-- What is left after one blank is an end of the text. -/
theorem skipOneBlank_suffix (cs : List Char) : skipOneBlank cs <:+ cs := by
  unfold skipOneBlank
  split
  · exact List.suffix_append ['\r', '\n'] _
  · split
    · exact List.suffix_cons _ _
    · exact List.suffix_refl _
  · exact List.suffix_refl _

theorem readEscape?_suffix {cs rest : List Char} {c : Option Char}
    (h : readEscape? cs = some (c, rest)) : rest <:+ cs := by
  unfold readEscape? at h
  dsimp only at h
  split at h
  · split at h
    · cases h
      exact List.suffix_refl _
    · cases h
      exact List.suffix_refl _
    · split at h
      · cases h
      · cases h
        exact List.suffix_cons _ _
  · simp only [Option.map_eq_some_iff, Prod.mk.injEq] at h
    obtain ⟨_, _, _, rfl⟩ := h
    exact (skipOneBlank_suffix _).trans (List.drop_suffix _ _)

theorem nameTail_suffix (cs : List Char) : (nameTail cs).2 <:+ cs := by
  fun_induction nameTail cs with
  | case1 => exact List.suffix_refl _
  | case2 rest e after hEscape _ more left hTail ih =>
    rw [hTail] at ih
    exact (ih.trans (readEscape?_suffix hEscape)).trans (List.suffix_cons _ _)
  | case3 => exact List.suffix_refl _
  | case4 c rest _ _ more left hTail ih =>
    rw [hTail] at ih
    exact ih.trans (List.suffix_cons _ _)
  | case5 => exact List.suffix_refl _

theorem readName?_suffix {cs rest : List Char} {name : Spelling}
    (h : readName? cs = some (name, rest)) : rest <:+ cs := by
  unfold readName? at h
  split at h
  · cases h
    exact (nameTail_suffix _).trans (List.suffix_append ['-', '-'] _)
  · split at h
    · cases h
      exact (nameTail_suffix _).trans (List.suffix_cons _ _)
    · cases h
  · split at h
    · cases h
      exact nameTail_suffix _
    · cases h

/-! ## Blanks and combinators -/

theorem afterComment?_suffix {cs rest : List Char} (h : afterComment? cs = some rest) :
    rest <:+ cs := by
  fun_induction afterComment? cs with
  | case1 => cases h
  | case2 =>
    cases h
    exact List.suffix_append ['*', '/'] _
  | case3 _ _ _ ih => exact (ih h).trans (List.suffix_cons _ _)

theorem skipBlanks_suffix (cs : List Char) : skipBlanks cs <:+ cs := by
  fun_induction skipBlanks cs with
  | case1 => exact List.suffix_refl _
  | case2 rest after hAfter _ ih =>
    exact (ih.trans (afterComment?_suffix hAfter)).trans (List.suffix_append ['/', '*'] _)
  | case3 => exact List.suffix_refl _
  | case4 c rest _ _ ih => exact ih.trans (List.suffix_cons _ _)
  | case5 => exact List.suffix_refl _

theorem skipComments_suffix (cs : List Char) : skipComments cs <:+ cs := by
  fun_induction skipComments cs with
  | case1 rest after hAfter _ ih =>
    exact (ih.trans (afterComment?_suffix hAfter)).trans (List.suffix_append ['/', '*'] _)
  | case2 => exact List.suffix_refl _
  | case3 => exact List.suffix_refl _

theorem afterBlanks?_suffix {cs rest : List Char} (h : afterBlanks? cs = some rest) :
    rest <:+ cs := by
  unfold afterBlanks? at h
  split at h
  · rename_i c after hComments
    have hAfter : after <:+ cs :=
      (List.suffix_cons c after).trans (hComments ▸ skipComments_suffix cs)
    split at h
    · cases h
      exact (skipBlanks_suffix _).trans hAfter
    · cases h
  · cases h

theorem readCombinator?_suffix {cs rest : List Char} {c : Combinator}
    (h : readCombinator? cs = some (c, rest)) : rest <:+ cs := by
  unfold readCombinator? at h
  dsimp only at h
  split at h
  · cases h
    exact ((skipBlanks_suffix _).trans (List.drop_suffix _ _)).trans (skipBlanks_suffix cs)
  · simp only [Option.map_eq_some_iff, Prod.mk.injEq] at h
    obtain ⟨_, hAfter, _, rfl⟩ := h
    exact afterBlanks?_suffix hAfter

/-! ## Up to a sign -/

/-- The end of a comment has a slash. -/
theorem afterComment?_eq_none {cs : List Char} (h : '/' ∉ cs) : afterComment? cs = none := by
  fun_induction afterComment? cs with
  | case1 => rfl
  | case2 more => exact absurd (by simp) h
  | case3 c more _ ih => exact ih fun hMem => h (List.mem_cons_of_mem c hMem)

section Sign

variable {sign : Char} {front rest left : List Char}

/-- A comment that begins before a sign ends before it, if no slash comes after the sign. -/
theorem afterComment?_keeps (hSign : sign ≠ '/') (hRest : '/' ∉ rest)
    (h : afterComment? (front ++ sign :: rest) = some left) : sign :: rest <:+ left := by
  induction front with
  | nil =>
    -- Where the front is used up, there is no slash to come.
    have hNone : '/' ∉ sign :: rest := by
      intro hMem
      rcases List.mem_cons.mp hMem with hHead | hMem
      · exact hSign hHead.symm
      · exact hRest hMem
    rw [List.nil_append, afterComment?_eq_none hNone] at h
    cases h
  | cons c front ih =>
    rw [List.cons_append] at h
    unfold afterComment? at h
    split at h
    · cases h
    · rename_i more hStart
      cases h
      -- The end of the comment stands in the front as a whole, as the sign is no part of it.
      obtain ⟨_, hTail⟩ := List.cons.inj hStart
      cases front with
      | nil => exact absurd (List.cons.inj hTail).1 hSign
      | cons d front => exact ⟨front, (List.cons.inj hTail).2⟩
    · rename_i hStart
      cases hStart
      exact ih h

/-- Blanks and comments before a sign end before it, if there are no slashes on one side of it. -/
theorem skipBlanks_keeps (hInk : Text.isMarkupBlank sign = false) (hSign : sign ≠ '/')
    (h : '/' ∉ front ∨ '/' ∉ rest) : sign :: rest <:+ skipBlanks (front ++ sign :: rest) := by
  generalize hText : front ++ sign :: rest = cs
  fun_induction skipBlanks cs generalizing front with
  | case1 => simp at hText
  | case2 more after hAfter _ ih =>
    rcases front with - | ⟨d, front⟩
    · exact absurd (List.cons.inj hText).1 hSign
    · obtain ⟨rfl, hMore⟩ := List.cons.inj hText
      have hRest : '/' ∉ rest := h.resolve_left fun hNone => hNone List.mem_cons_self
      -- The comment begins before the sign, or the sign is its star; then it has no end.
      rcases front with - | ⟨d, inner⟩
      · obtain ⟨_, rfl⟩ := List.cons.inj hMore
        rw [afterComment?_eq_none hRest] at hAfter
        cases hAfter
      · obtain ⟨_, rfl⟩ := List.cons.inj hMore
        have hKept : sign :: rest <:+ after := afterComment?_keeps hSign hRest hAfter
        obtain ⟨inner', hInner⟩ := hKept
        exact ih (.inr hRest) hInner
  | case3 => exact ⟨front, hText⟩
  | case4 c more _ hBlank ih =>
    cases front with
    | nil =>
      have hHead : sign = c := (List.cons.inj hText).1
      rw [← hHead, hInk] at hBlank
      cases hBlank
    | cons d front =>
      refine ih ?_ (List.cons.inj hText).2
      exact h.imp_left fun hNone hMem => hNone (List.mem_cons_of_mem d hMem)
  | case5 => exact ⟨front, hText⟩

/-- The blanks and comments at the end of a text do not reach back to a sign that no slash comes
before. -/
theorem marginLength_le (hInk : Text.isMarkupBlank sign = false) (hSign : sign ≠ '/')
    (hFront : '/' ∉ front) : marginLength (front ++ sign :: rest) ≤ rest.length := by
  have hBack : sign :: front.reverse <:+ skipBlanks (rest.reverse ++ sign :: front.reverse) :=
    skipBlanks_keeps hInk hSign (.inr fun hMem => hFront (List.mem_reverse.mp hMem))
  have hText : (front ++ sign :: rest).reverse = rest.reverse ++ sign :: front.reverse := by simp
  have hLength := hBack.length_le
  rw [marginLength, hText]
  simp only [List.length_cons, List.length_reverse, List.length_append] at hLength ⊢
  omega

end Sign

/-! ## In front of more characters -/

/-- A comment is skipped like a blank. -/
theorem skipBlanks_comment {rest after : List Char} (h : afterComment? rest = some after) :
    skipBlanks ('/' :: '*' :: rest) = skipBlanks after := by
  rw [skipBlanks]
  split
  · rename_i found hFound
    rw [h] at hFound
    cases hFound
    rfl
  · rename_i hNone
    rw [h] at hNone
    cases hNone

/-- A comment that is never closed is not skipped. -/
theorem skipBlanks_unclosed {rest : List Char} (h : afterComment? rest = none) :
    skipBlanks ('/' :: '*' :: rest) = '/' :: '*' :: rest := by
  rw [skipBlanks]
  split
  · rename_i found hFound
    rw [h] at hFound
    cases hFound
  · rfl

theorem skipBlanks_blank {c : Char} (h : Text.isMarkupBlank c = true) (rest : List Char) :
    skipBlanks (c :: rest) = skipBlanks rest := by
  rw [skipBlanks]
  · exact if_pos h
  · rintro _ rfl
    cases h

/-- A tail without a slash ends no comment, so that it stays behind the one before it. -/
theorem afterComment?_append (cs : List Char) {tail : List Char} (hTail : '/' ∉ tail) :
    afterComment? (cs ++ tail) = (afterComment? cs).map (· ++ tail) := by
  fun_induction afterComment? cs with
  | case1 => exact afterComment?_eq_none hTail
  | case2 => rfl
  | case3 c rest hOther ih =>
    rw [List.cons_append, afterComment?]
    · exact ih
    · intro more hStar hSlash
      cases rest with
      | nil =>
        rw [List.nil_append] at hSlash
        exact hTail (hSlash ▸ List.mem_cons_self)
      | cons d rest =>
        obtain ⟨rfl, _⟩ := List.cons.inj hSlash
        exact hOther rest hStar rfl

/-- Where blanks and comments end, characters at the end change nothing, if they cannot close a
comment. -/
theorem skipBlanks_append {cs tail : List Char} (hTail : '/' ∉ tail) (hSome : skipBlanks cs ≠ []) :
    skipBlanks (cs ++ tail) = skipBlanks cs ++ tail := by
  fun_induction skipBlanks cs with
  | case1 => exact absurd rfl hSome
  | case2 rest after hAfter _ ih =>
    have hMore : afterComment? (rest ++ tail) = some (after ++ tail) := by
      rw [afterComment?_append rest hTail, hAfter, Option.map_some]
    exact (skipBlanks_comment hMore).trans (ih hSome)
  | case3 rest hNone =>
    have hMore : afterComment? (rest ++ tail) = none := by
      rw [afterComment?_append rest hTail, hNone, Option.map_none]
    exact skipBlanks_unclosed hMore
  | case4 c rest _ hBlank ih => exact (skipBlanks_blank hBlank (rest ++ tail)).trans (ih hSome)
  | case5 c rest hOther hInk =>
    rw [List.cons_append]
    by_cases hOpens : c = '/' ∧ ∃ more, rest ++ tail = '*' :: more
    · -- A slash at the end may come to stand before a star; no comment is closed there.
      obtain ⟨rfl, more, hMore⟩ := hOpens
      cases rest with
      | nil =>
        rw [List.nil_append] at hMore ⊢
        subst hMore
        exact skipBlanks_unclosed (afterComment?_eq_none fun hMem => hTail (List.mem_cons_of_mem _ hMem))
      | cons d rest =>
        obtain ⟨rfl, _⟩ := List.cons.inj hMore
        exact absurd rfl (hOther rest rfl)
    · rw [skipBlanks]
      · exact if_neg hInk
      · exact fun more hSlash hStar => hOpens ⟨hSlash, more, hStar⟩

/-- The blanks and comments at the end are those of the characters at the end, if these are not all
blanks and comments. -/
theorem marginLength_append {front cs : List Char} (hFront : '/' ∉ front)
    (hInk : marginLength cs < cs.length) : marginLength (front ++ cs) = marginLength cs := by
  have hBack : '/' ∉ front.reverse := fun hMem => hFront (List.mem_reverse.mp hMem)
  have hSome : skipBlanks cs.reverse ≠ [] := by
    intro hNone
    rw [marginLength, hNone, List.length_nil] at hInk
    omega
  have hLength := (skipBlanks_suffix cs.reverse).length_le
  rw [marginLength, List.reverse_append, skipBlanks_append hBack hSome, marginLength]
  simp only [List.length_append, List.length_reverse] at hLength ⊢
  omega

/-! ## Types -/

theorem readTypeName?_suffix {cs rest : List Char} {name : Spelling}
    (h : readTypeName? cs = some (name, rest)) : rest <:+ cs := by
  unfold readTypeName? at h
  split at h
  · cases h
    exact List.suffix_cons _ _
  · exact readName?_suffix h

/-- There is no namespace without a bar. -/
theorem readSpacedType?_eq_none (space : Spelling) {cs : List Char} (h : ∀ tail, cs ≠ '|' :: tail) :
    readSpacedType? space cs = none := by
  unfold readSpacedType?
  split
  · exact absurd rfl (h _)
  · rfl

theorem readSpacedType?_suffix {space : Spelling} {cs rest : List Char} {t : Token}
    (h : readSpacedType? space cs = some (t, rest)) : rest <:+ cs := by
  unfold readSpacedType? at h
  split at h
  · simp only [Option.map_eq_some_iff, Prod.mk.injEq, Prod.exists] at h
    obtain ⟨_, _, hName, _, rfl⟩ := h
    exact (readTypeName?_suffix hName).trans (List.suffix_cons _ _)
  · cases h

theorem readType?_suffix {cs rest : List Char} {t : Token} (h : readType? cs = some (t, rest)) :
    rest <:+ cs := by
  unfold readType? at h
  split at h
  · rename_i name after hName
    have hAfter : after <:+ cs := readTypeName?_suffix hName
    rw [Option.orElse_eq_some] at h
    rcases h with hSpaced | ⟨_, hPlain⟩
    · exact (readSpacedType?_suffix hSpaced).trans hAfter
    · cases hPlain
      exact hAfter
  · exact readSpacedType?_suffix h

/-! ## States and functions -/

theorem splitSign_suffix (cs : List Char) : (Number.splitSign cs).2 <:+ cs := by
  unfold Number.splitSign
  split
  · exact List.suffix_cons _ _
  · exact List.suffix_cons _ _
  · exact List.suffix_refl _

theorem readOffset?_suffix {cs rest : List Char} {n : Int} (h : readOffset? cs = some (n, rest)) :
    rest <:+ cs := by
  unfold readOffset? at h
  split at h
  · rename_i c body hBody
    split at h
    · simp only [List.span_eq_takeWhile_dropWhile, Option.map_eq_some_iff, Prod.mk.injEq] at h
      obtain ⟨_, _, _, rfl⟩ := h
      exact (((List.dropWhile_suffix _).trans (skipBlanks_suffix _)).trans
        (List.suffix_cons c body)).trans (hBody ▸ skipBlanks_suffix cs)
    · cases h
  · cases h

theorem readProgression?_suffix {cs rest : List Char} {p : Progression}
    (h : readProgression? cs = some (p, rest)) : rest <:+ cs := by
  unfold readProgression? at h
  simp only [List.span_eq_takeWhile_dropWhile] at h
  have hBody : (Number.splitSign cs).2.dropWhile Char.isDigit <:+ cs :=
    (List.dropWhile_suffix _).trans (splitSign_suffix cs)
  split at h
  · cases h
    exact List.drop_suffix _ _
  · split at h
    · cases h
      exact List.drop_suffix _ _
    · split at h
      · rename_i c after hRest
        rw [hRest] at hBody
        split at h
        · -- An offset may follow the variable, or nothing that belongs to the progression.
          have hAfter : after <:+ cs := (List.suffix_cons c after).trans hBody
          have hOffset : ((readOffset? after).getD (0, after)).2 <:+ cs := by
            cases hRead : readOffset? after with
            | none => exact hAfter
            | some found => exact (readOffset?_suffix hRead).trans hAfter
          split at h
          · cases h
            exact hOffset
          · simp only [Option.bind_eq_bind, Option.bind_eq_some_iff, Option.pure_def,
              Option.some.injEq, Prod.mk.injEq] at h
            obtain ⟨_, _, _, rfl⟩ := h
            exact hOffset
        · simp only [Option.map_eq_some_iff, Prod.mk.injEq] at h
          obtain ⟨_, _, _, rfl⟩ := h
          exact hRest ▸ hBody
      · rename_i hRest
        simp only [Option.map_eq_some_iff, Prod.mk.injEq] at h
        obtain ⟨_, _, _, rfl⟩ := h
        exact hBody

theorem afterOf?_suffix {cs rest : List Char} (h : afterOf? cs = some rest) : rest <:+ cs := by
  unfold afterOf? at h
  simp only [Option.bind_eq_bind, Option.bind_eq_some_iff] at h
  obtain ⟨spaced, hSpaced, h⟩ := h
  split at h
  · exact ((afterBlanks?_suffix h).trans (List.drop_suffix _ _)).trans (afterBlanks?_suffix hSpaced)
  · cases h

theorem readCounting?_suffix {fromEnd ofType : Bool} {cs rest : List Char} {t : Token}
    (h : readCounting? fromEnd ofType cs = some (t, rest)) : rest <:+ cs := by
  unfold readCounting? at h
  simp only [Option.bind_eq_bind, Option.bind_eq_some_iff, Prod.exists] at h
  obtain ⟨places, left, hPlaces, h⟩ := h
  have hLeft : left <:+ cs := (readProgression?_suffix hPlaces).trans (skipBlanks_suffix cs)
  split at h
  · rename_i after hClose
    cases h
    exact ((List.suffix_cons _ _).trans (hClose ▸ skipBlanks_suffix left)).trans hLeft
  · split at h
    · cases h
    · simp only [Option.map_eq_some_iff, Prod.mk.injEq] at h
      obtain ⟨_, hAfter, _, rfl⟩ := h
      exact (afterOf?_suffix hAfter).trans hLeft

theorem readState?_suffix {cs rest : List Char} {t : Token} (h : readState? cs = some (t, rest)) :
    rest <:+ cs := by
  unfold readState? at h
  simp only [Option.bind_eq_bind, Option.bind_eq_some_iff, Prod.exists] at h
  obtain ⟨written, left, hName, name, _, h⟩ := h
  have hLeft : left <:+ cs := readName?_suffix hName
  split at h
  · rename_i body
    have hBody : body <:+ cs := (List.suffix_cons _ _).trans hLeft
    split at h
    · exact (readCounting?_suffix h).trans hBody
    · cases h
      exact (skipBlanks_suffix _).trans hBody
  · cases h
    exact hLeft

end Selector
end StableLocator
