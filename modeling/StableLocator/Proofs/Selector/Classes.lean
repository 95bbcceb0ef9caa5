import StableLocator.Proofs.Selector.Segments

/-!
# Classes in selectors

A class is written behind a point, as a name. Whatever stands in it, a selector reads it as that class
and goes on with what is written behind it:

* `GoesOn` — what may be written behind a class;
* `readTokens?_skipBlanks` — blanks in front of what goes on do not count;
* `marginLength_class` — nor does the class change which characters at the end are blank;
* `readAll?_class` — the class is a single token, and the other tokens are those of what goes on.
-/

namespace StableLocator
namespace Selector

/-- What may be written behind a class: nothing, another class, a position among the elements of one
type, or the sign of a child and any selector. -/
inductive GoesOn : String → Prop
  | nothing : GoesOn ""
  | class (rest : String) : GoesOn ("." ++ rest)
  | position (rest : String) : GoesOn (":nth-of-type(" ++ rest)
  | child (selector : String) : GoesOn (" > " ++ selector)

theorem toList_seenText (s : String) : (seenText s).toList = s.toList.map seenChar :=
  String.toList_ofList

theorem seenText_append (s t : String) : seenText (s ++ t) = seenText s ++ seenText t := by
  rw [← String.toList_inj, String.toList_append]
  simp only [toList_seenText, String.toList_append, List.map_append]

/-- What goes on begins with a point or a colon, or with the sign of a child between two blanks. -/
theorem GoesOn.chars {continuation : String} (h : GoesOn continuation) :
    (seenText continuation).toList = [] ∨
      (∃ sign rest, (sign = '.' ∨ sign = ':') ∧ (seenText continuation).toList = sign :: rest) ∨
      ∃ rest, (seenText continuation).toList = ' ' :: '>' :: ' ' :: rest := by
  cases h with
  | nothing => exact .inl rfl
  | «class» rest =>
    rw [seenText_append, String.toList_append]
    exact .inr (.inl ⟨'.', _, .inl rfl, rfl⟩)
  | position rest =>
    rw [seenText_append, String.toList_append]
    exact .inr (.inl ⟨':', _, .inr rfl, rfl⟩)
  | child selector =>
    rw [seenText_append, String.toList_append]
    exact .inr (.inr ⟨_, rfl⟩)

/-- Whatever goes on behind a class ends it. -/
theorem GoesOn.endsPart {continuation : String} (h : GoesOn continuation) :
    EndsPart (seenText continuation).toList := by
  intro c hc
  rcases h.chars with hNone | ⟨sign, rest, hSign, hChars⟩ | ⟨rest, hChars⟩
  · rw [hNone] at hc
    cases hc
  · rw [hChars, List.head?_cons, Option.mem_some] at hc
    subst hc
    exact hSign.imp_right .inl
  · rw [hChars, List.head?_cons, Option.mem_some] at hc
    exact .inr (.inr hc.symm)

/-! ## Blanks around what goes on -/

/-- A token is read where the margin has not begun, and the others behind it. -/
theorem readTokens?_of_readToken? {margin : Nat} {cs rest : List Char} {token : Token}
    (hMargin : margin < cs.length) (hRead : readToken? cs = some (token, rest))
    (hShort : rest.length < cs.length) :
    readTokens? margin cs = (readTokens? margin rest).map (token :: ·) := by
  rw [readTokens?, if_neg (Nat.not_le.2 hMargin), hRead]
  exact if_pos hShort

/-- The blanks and comments at the end do not reach back to the sign of a child. -/
theorem marginLength_child_le (rest : List Char) :
    marginLength (' ' :: '>' :: ' ' :: rest) ≤ (' ' :: rest).length := by
  have hFront : '/' ∉ [' '] := by decide
  exact marginLength_le (by decide) (by decide) hFront

/-- What goes on is not all blanks and comments. -/
theorem GoesOn.marginLength_lt {continuation : String} (h : GoesOn continuation) :
    (seenText continuation).toList = [] ∨
      marginLength (seenText continuation).toList < (seenText continuation).toList.length := by
  rcases h.chars with hNone | ⟨sign, rest, hSign, hChars⟩ | ⟨rest, hChars⟩
  · exact .inl hNone
  · have hInk : Text.isMarkupBlank sign = false ∧ sign ≠ '/' := by
      rcases hSign with rfl | rfl
      · decide
      · decide
    have hLe : marginLength ([] ++ sign :: rest) ≤ rest.length :=
      marginLength_le hInk.1 hInk.2 List.not_mem_nil
    rw [hChars, List.length_cons]
    exact .inr (Nat.lt_succ_of_le hLe)
  · have hLe := marginLength_child_le rest
    rw [hChars]
    refine .inr (Nat.lt_of_le_of_lt hLe ?_)
    simp only [List.length_cons]
    omega

/-- The blanks in front of what goes on are part of its first token, or there are none. -/
theorem GoesOn.readTokens?_skipBlanks {continuation : String} (h : GoesOn continuation) :
    readTokens? (marginLength (seenText continuation).toList) (skipBlanks (seenText continuation).toList) =
      readTokens? (marginLength (seenText continuation).toList) (seenText continuation).toList := by
  rcases h.chars with hNone | ⟨sign, rest, hSign, hChars⟩ | ⟨rest, hChars⟩
  · rw [hNone, skipBlanks]
  · have hSkip : skipBlanks (sign :: rest) = sign :: rest := by
      rcases hSign with rfl | rfl
      · exact skipBlanks_cons (by simp) rest
      · exact skipBlanks_cons (by simp) rest
    rw [hChars, hSkip]
  · have hLe := marginLength_child_le rest
    have hShort := (skipBlanks_suffix (' ' :: rest)).length_le
    -- With the blank in front and without it, the sign is read as the same token.
    have hBare : readToken? ('>' :: ' ' :: rest) =
        some (.combinator .child, skipBlanks (' ' :: rest)) := readToken?_childSign (.inl rfl)
    have hBlank : readToken? (' ' :: '>' :: ' ' :: rest) =
        some (.combinator .child, skipBlanks (' ' :: rest)) := readToken?_childSign (.inr rfl)
    have hSkip : skipBlanks (' ' :: '>' :: ' ' :: rest) = '>' :: ' ' :: rest :=
      (skipBlanks_blank (by decide) _).trans (skipBlanks_cons (by simp) _)
    rw [hChars]
    generalize marginLength (' ' :: '>' :: ' ' :: rest) = margin at hLe
    calc readTokens? margin (skipBlanks (' ' :: '>' :: ' ' :: rest))
        = readTokens? margin ('>' :: ' ' :: rest) := by rw [hSkip]
      _ = (readTokens? margin (skipBlanks (' ' :: rest))).map (.combinator .child :: ·) :=
          readTokens?_of_readToken? (Nat.lt_succ_of_le hLe) hBare (Nat.lt_succ_of_le hShort)
      _ = readTokens? margin (' ' :: '>' :: ' ' :: rest) :=
          (readTokens?_of_readToken? (Nat.lt_succ_of_lt (Nat.lt_succ_of_le hLe)) hBlank
            (Nat.lt_succ_of_lt (Nat.lt_succ_of_le hShort))).symm

/-! ## A class and what goes on -/

def classText (token : String) : String := "." ++ escapeName token

/-- A class is written without null characters and without signs of comments. -/
theorem isPathChar_classText {token : String} {c : Char} (h : c ∈ (classText token).toList) :
    IsPathChar c := by
  rw [classText, String.toList_append] at h
  rcases List.mem_append.1 h with hPoint | hName
  · exact isPathChar_of_mem (by decide) hPoint
  · exact isPathChar_escapeName hName

/-- A class that was written is seen as it is. -/
theorem seenText_classText (token : String) : seenText (classText token) = classText token :=
  seenText_eq_self fun _ hc => (isPathChar_classText hc).2

/-- A class in front of what goes on is read as a single token, and no blank behind it is lost. -/
theorem readToken?_classText {token continuation : String} (hSome : token ≠ "") (hDash : token ≠ "-")
    (hMore : GoesOn continuation) :
    readToken? (seenText (classText token ++ continuation)).toList =
      some (.token (.text (seenText token)), (seenText continuation).toList) := by
  rw [seenText_append, seenText_classText, String.toList_append]
  have hRead := readToken?_class hSome hDash hMore.endsPart
  rw [classText, String.toList_append]
  exact hRead

/-- The blanks at the end of a class, where an escape ends in one, do not make the margin longer than
what goes on has it. -/
theorem marginLength_class {token continuation : String} (hMore : GoesOn continuation)
    (hSome : (seenText continuation).toList ≠ []) :
    marginLength (seenText (classText token ++ continuation)).toList =
      marginLength (seenText continuation).toList := by
  have hSlash : '/' ∉ (classText token).toList := fun hMem => (isPathChar_classText hMem).1 rfl
  rw [seenText_append, seenText_classText, String.toList_append]
  exact marginLength_append hSlash (hMore.marginLength_lt.resolve_left hSome)

/-- A class of more than two characters, none of them the null character, is read as that class and
nothing else; then what goes on is read as it is by itself. Blanks, colons and brackets in the class are
escaped like all other signs. -/
theorem readAll?_class {token continuation : String} (hLong : 2 < token.length)
    (hNull : ∀ c ∈ token.toList, c.toNat ≠ 0) (hMore : GoesOn continuation) :
    readToken? (seenText ("." ++ escapeName token ++ continuation)).toList =
        some (.token (.text token), (seenText continuation).toList) ∧
      Token.readAll? ("." ++ escapeName token ++ continuation) =
        (Token.readAll? continuation).map (.token (.text token) :: ·) := by
  have hSome : token ≠ "" := by
    rintro rfl
    exact absurd hLong (by decide)
  have hDash : token ≠ "-" := by
    rintro rfl
    exact absurd hLong (by decide)
  have hRead := readToken?_classText hSome hDash hMore
  rw [seenText_eq_self hNull] at hRead
  refine ⟨hRead, ?_⟩
  -- Nothing in front of the point is skipped, and the class ends before the margin.
  obtain ⟨more, hChars⟩ : ∃ more,
      (seenText (classText token ++ continuation)).toList = '.' :: more := by
    rw [seenText_append, seenText_classText, classText, String.toList_append, String.toList_append]
    exact ⟨_, rfl⟩
  have hStart : skipBlanks (seenText (classText token ++ continuation)).toList =
      (seenText (classText token ++ continuation)).toList := by
    rw [hChars]
    exact skipBlanks_cons (by simp) more
  have hMargin : marginLength (seenText (classText token ++ continuation)).toList <
      (seenText (classText token ++ continuation)).toList.length := by
    have hLe : marginLength ([] ++ '.' :: more) ≤ more.length :=
      marginLength_le (by decide) (by decide) List.not_mem_nil
    rw [hChars, List.length_cons]
    exact Nat.lt_succ_of_le hLe
  have hShort : (seenText continuation).toList.length <
      (seenText (classText token ++ continuation)).toList.length := by
    rw [seenText_append, seenText_classText, classText]
    simp only [String.toList_append, List.length_append]
    exact Nat.lt_add_of_pos_left (Nat.lt_add_right _ (by decide))
  have hRest : readTokens? (marginLength (seenText (classText token ++ continuation)).toList)
      (seenText continuation).toList = Token.readAll? continuation := by
    by_cases hNone : (seenText continuation).toList = []
    · have hText : continuation.toList.map seenChar = [] := toList_seenText continuation ▸ hNone
      rw [hNone, Token.readAll?, hText, skipBlanks, readTokens?_nil, readTokens?_nil]
    · rw [marginLength_class hMore hNone, ← hMore.readTokens?_skipBlanks, Token.readAll?,
        toList_seenText]
  calc Token.readAll? (classText token ++ continuation)
      = readTokens? (marginLength (seenText (classText token ++ continuation)).toList)
          (seenText (classText token ++ continuation)).toList := by
        rw [Token.readAll?, ← toList_seenText, hStart]
    _ = (readTokens? (marginLength (seenText (classText token ++ continuation)).toList)
          (seenText continuation).toList).map (.token (.text token) :: ·) :=
        readTokens?_of_readToken? hMargin hRead hShort
    _ = (Token.readAll? continuation).map (.token (.text token) :: ·) := by rw [hRest]

/-- A digit behind a dash, a sign and letters of other scripts: the class is one token, the sign of a
child follows. -/
theorem readAll?_class_child :
    2 < ("-1é!²".length) ∧ (∀ c ∈ "-1é!²".toList, c.toNat ≠ 0) ∧ GoesOn (" > " ++ "b") ∧
      "." ++ escapeName "-1é!²" ++ (" > " ++ "b") = ".-\\31 é\\21 ² > b" ∧
      Token.readAll? ("." ++ escapeName "-1é!²" ++ (" > " ++ "b")) =
        some [.token (.text "-1é!²"), .combinator .child, .type "b"] := by
  have hLong : 2 < ("-1é!²".length) := by decide
  have hNull : ∀ c ∈ "-1é!²".toList, c.toNat ≠ 0 :=
    fun _ hc => (isPathChar_of_mem (by decide) hc).2
  have hRest : Token.readAll? (" > " ++ "b") = some [.combinator .child, .type "b"] := by
    decide +kernel
  refine ⟨hLong, hNull, .child "b", by decide +kernel, ?_⟩
  rw [(readAll?_class hLong hNull (.child "b")).2, hRest]
  rfl

end Selector
end StableLocator
