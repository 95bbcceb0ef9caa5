import StableLocator.Proofs.Selector.Remainder
import StableLocator.Selector.Parser

/-!
# Texts that are no selectors

An opening bracket belongs to the name of a function, which comes after a colon. Where a text comes to
a bracket without any sign of selectors but points, the reader stops in front of it.

* `IsBare` — a character that is no sign of selectors;
* `readToken?_keeps` — no token goes past such a bracket;
* `read?_eq_none_of_bracket` — so such a text is no selector.
-/

namespace StableLocator
namespace Selector

/-- The signs of selectors, the point aside. -/
def signs : List Char :=
  [':', '&', '#', '[', '*', '|', '\\', '/', '-', ',', '>', '+', '~', ')']

/-- The character is neither a sign of selectors nor the null character. -/
def IsBare (c : Char) : Prop := c ∉ signs ∧ c.toNat ≠ 0

/-- The characters of a class that has neither signs nor the null character. -/
theorem isBare_of {p : Char → Bool} (hSigns : signs.all (fun d => !p d) = true)
    (hNull : p (Char.ofNat 0) = false) {c : Char} (h : p c = true) : IsBare c := by
  constructor
  · intro hSign
    have hNot : (!p c) = true := List.all_eq_true.mp hSigns c hSign
    rw [h] at hNot
    cases hNot
  · intro hZero
    have hc : c = Char.ofNat 0 := by rw [← hZero, Char.ofNat_toNat]
    rw [hc, hNull] at h
    cases h

/-- Whatever is no sign of selectors is no combinator. -/
theorem combinatorOf?_eq_none {c : Char} (h : c ∉ signs) : combinatorOf? c = none := by
  unfold combinatorOf?
  split
  case h_5 => rfl
  all_goals exact absurd (by decide) h

section Bracket

variable {front rest left : List Char}

/-- A sign at the start of a text is no bracket, so it stands before the bracket. -/
theorem mem_of_append_bracket {d : Char} {tail : List Char} (hSign : d ∈ signs)
    (h : front ++ '(' :: rest = d :: tail) : d ∈ front := by
  cases front with
  | nil =>
    have hHead : '(' = d := (List.cons.inj h).1
    rw [← hHead] at hSign
    exact absurd hSign (by decide)
  | cons c front =>
    have hHead : c = d := (List.cons.inj h).1
    rw [hHead]
    exact List.mem_cons_self

/-- What is left of a text with its bracket is the end of what stood before the bracket, the bracket
and all after it. -/
theorem exists_front (hLeft : left <:+ front ++ '(' :: rest) (hKeeps : '(' :: rest <:+ left) :
    ∃ front', front' <:+ front ∧ left = front' ++ '(' :: rest := by
  obtain ⟨front', rfl⟩ := hKeeps
  obtain ⟨before, hAll⟩ := hLeft
  rw [← List.append_assoc] at hAll
  exact ⟨front', ⟨before, List.append_cancel_right hAll⟩, rfl⟩

/-! ## Names -/

/-- A name that has no escapes ends before a bracket. -/
theorem nameTail_keeps (h : '\\' ∉ front) : '(' :: rest <:+ (nameTail (front ++ '(' :: rest)).2 := by
  induction front with
  | nil =>
    have hEnd : nameTail ('(' :: rest) = ([], '(' :: rest) := by
      rw [nameTail, if_neg (by decide), if_neg (by decide)]
    exact ⟨[], (congrArg Prod.snd hEnd).symm⟩
  | cons c front ih =>
    have hSlash : c ≠ '\\' := fun hc => h (hc ▸ List.mem_cons_self)
    rw [List.cons_append, nameTail, if_neg hSlash]
    split
    · exact ih fun hMem => h (List.mem_cons_of_mem c hMem)
    · exact List.suffix_append (c :: front) _

variable (hFront : ∀ c ∈ front, IsBare c)
include hFront

theorem not_mem_of_bare {d : Char} (hSign : d ∈ signs) : d ∉ front :=
  fun hMem => (hFront d hMem).1 hSign

/-- Neither what stands before the bracket nor the bracket begins with a sign. -/
theorem ne_sign_cons {d : Char} {tail : List Char} (hSign : d ∈ signs) :
    front ++ '(' :: rest ≠ d :: tail :=
  fun hStart => not_mem_of_bare hFront hSign (mem_of_append_bracket hSign hStart)

/-- Reading a name keeps the bracket behind it. -/
theorem readName?_keeps {name : Spelling} (h : readName? (front ++ '(' :: rest) = some (name, left)) :
    '(' :: rest <:+ left := by
  unfold readName? at h
  split at h
  · rename_i hStart
    exact absurd hStart (ne_sign_cons hFront (by decide))
  · rename_i hStart
    exact absurd hStart (ne_sign_cons hFront (by decide))
  · split at h
    · cases h
      exact nameTail_keeps (not_mem_of_bare hFront (by decide))
    · cases h

/-! ## Types and combinators -/

theorem readTypeName?_keeps {name : Spelling}
    (h : readTypeName? (front ++ '(' :: rest) = some (name, left)) : '(' :: rest <:+ left := by
  unfold readTypeName? at h
  split at h
  · rename_i hStart
    exact absurd hStart (ne_sign_cons hFront (by decide))
  · exact readName?_keeps hFront h

theorem readType?_keeps {t : Token} (h : readType? (front ++ '(' :: rest) = some (t, left)) :
    '(' :: rest <:+ left := by
  unfold readType? at h
  split at h
  · rename_i name after hName
    have hKeeps : '(' :: rest <:+ after := readTypeName?_keeps hFront hName
    obtain ⟨front', hEnd, rfl⟩ := exists_front (readTypeName?_suffix hName) hKeeps
    have hRest : ∀ c ∈ front', IsBare c := fun c hc => hFront c (hEnd.subset hc)
    rw [readSpacedType?_eq_none name fun _ => ne_sign_cons hRest (by decide)] at h
    cases h
    exact hKeeps
  · rw [readSpacedType?_eq_none _ fun _ => ne_sign_cons hFront (by decide)] at h
    cases h

theorem afterBlanks?_keeps (h : afterBlanks? (front ++ '(' :: rest) = some left) :
    '(' :: rest <:+ left := by
  have hComments : skipComments (front ++ '(' :: rest) = front ++ '(' :: rest := by
    unfold skipComments
    split
    · rename_i hStart
      exact absurd hStart (ne_sign_cons hFront (by decide))
    · rfl
  unfold afterBlanks? at h
  rw [hComments] at h
  -- A blank is in front, as the bracket is none.
  cases front with
  | nil => cases h
  | cons c front =>
    rw [List.cons_append] at h
    dsimp only at h
    split at h
    · cases h
      refine skipBlanks_keeps (by decide) (by decide) (.inl fun hMem => ?_)
      exact not_mem_of_bare hFront (by decide) (List.mem_cons_of_mem c hMem)
    · cases h

theorem readCombinator?_keeps {c : Combinator}
    (h : readCombinator? (front ++ '(' :: rest) = some (c, left)) : '(' :: rest <:+ left := by
  have hBlanks : '(' :: rest <:+ skipBlanks (front ++ '(' :: rest) :=
    skipBlanks_keeps (by decide) (by decide) (.inl (not_mem_of_bare hFront (by decide)))
  obtain ⟨front', hEnd, hSkip⟩ := exists_front (skipBlanks_suffix _) hBlanks
  -- No sign of a combinator follows the blanks, so they are the combinator.
  have hNone : (front' ++ '(' :: rest).head? >>= combinatorOf? = none := by
    cases front' with
    | nil => rfl
    | cons d more => exact combinatorOf?_eq_none (hFront d (hEnd.subset List.mem_cons_self)).1
  simp only [readCombinator?, hSkip, hNone] at h
  obtain ⟨after, hAfter, hPair⟩ := Option.map_eq_some_iff.mp h
  cases hPair
  exact afterBlanks?_keeps hFront hAfter

/-! ## Tokens -/

/-- A token in front of a bracket, without signs between them, does not go past the bracket. -/
theorem readToken?_keeps {t : Token} (h : readToken? (front ++ '(' :: rest) = some (t, left)) :
    ∃ front', front' <:+ front ∧ left = front' ++ '(' :: rest := by
  have hNoSlash : '/' ∉ front := not_mem_of_bare hFront (by decide)
  unfold readToken? at h
  split at h
  · -- No closing bracket follows the blanks.
    rename_i after hClose
    have hKeeps : '(' :: rest <:+ skipBlanks (front ++ '(' :: rest) :=
      skipBlanks_keeps (by decide) (by decide) (.inl hNoSlash)
    obtain ⟨front', hEnd, hSkip⟩ := exists_front (skipBlanks_suffix _) hKeeps
    rw [hSkip] at hClose
    exact absurd hClose (ne_sign_cons (fun c hc => hFront c (hEnd.subset hc)) (by decide))
  · -- Of the signs that begin a token only the point may stand here.
    split at h
    all_goals try
      rename_i hStart
      exact absurd hStart (ne_sign_cons hFront (by decide))
    · rename_i more hStart
      obtain ⟨⟨name, after⟩, hName, hPair⟩ := Option.map_eq_some_iff.mp h
      cases hPair
      cases front with
      | nil => exact absurd (List.cons.inj hStart).1 (by decide)
      | cons c front =>
        obtain ⟨rfl, hTail⟩ := List.cons.inj hStart
        rw [← hTail] at hName
        obtain ⟨front', hEnd, hAfter⟩ := exists_front (readName?_suffix hName)
          (readName?_keeps (fun d hd => hFront d (List.mem_cons_of_mem _ hd)) hName)
        exact ⟨front', hEnd.trans (List.suffix_cons _ _), hAfter⟩
    · rw [Option.orElse_eq_some] at h
      rcases h with hType | ⟨_, hCombinator⟩
      · exact exists_front (readType?_suffix hType) (readType?_keeps hFront hType)
      · obtain ⟨⟨c, after⟩, hRead, hPair⟩ := Option.map_eq_some_iff.mp hCombinator
        cases hPair
        exact exists_front (readCombinator?_suffix hRead) (readCombinator?_keeps hFront hRead)

/-- No tokens make up a text with such a bracket before its margin. -/
theorem readTokens?_eq_none {margin : Nat} (hMargin : margin ≤ rest.length) :
    readTokens? margin (front ++ '(' :: rest) = none := by
  generalize hText : front ++ '(' :: rest = cs
  -- Each token leaves the bracket and less in front of it, until none can be read.
  fun_induction readTokens? margin cs generalizing front with
  | case1 cs hShort =>
    rw [← hText, List.length_append, List.length_cons] at hShort
    omega
  | case2 => rfl
  | case3 cs _ token left hRead _ ih =>
    rw [← hText] at hRead
    obtain ⟨front', hEnd, hLeft⟩ := readToken?_keeps hFront hRead
    rw [ih (fun c hc => hFront c (hEnd.subset hc)) hLeft.symm]
    rfl
  | case4 => rfl

end Bracket

/-- A text that comes to an opening bracket without any sign of selectors but points is no selector. -/
theorem read?_eq_none_of_bracket {selector : String} {front rest : List Char}
    (h : selector.toList = front ++ '(' :: rest) (hFront : ∀ c ∈ front, IsBare c) :
    Formula.read? selector = none := by
  have hSeen : front.map seenChar = front := by
    have hSame : ∀ c ∈ front, seenChar c = id c := fun c hc => if_neg (hFront c hc).2
    rw [List.map_congr_left hSame, List.map_id]
  have hText : selector.toList.map seenChar = front ++ '(' :: rest.map seenChar := by
    rw [h, List.map_append, hSeen, List.map_cons]
    rfl
  have hNoSlash : '/' ∉ front := not_mem_of_bare hFront (by decide)
  have hKeeps : '(' :: rest.map seenChar <:+ skipBlanks (front ++ '(' :: rest.map seenChar) :=
    skipBlanks_keeps (by decide) (by decide) (.inl hNoSlash)
  obtain ⟨front', hEnd, hSkip⟩ := exists_front (skipBlanks_suffix _) hKeeps
  have hTokens : Token.readAll? selector = none := by
    rw [Token.readAll?, hText, hSkip]
    exact readTokens?_eq_none (fun c hc => hFront c (hEnd.subset hc))
      (marginLength_le (by decide) (by decide) hNoSlash)
  rw [Formula.read?, hTokens]
  rfl

end Selector
end StableLocator
