import StableLocator.Proofs.Locator.Spelling
import StableLocator.Proofs.Outcome

/-!
# Lexemes cover their text

No character of a locator text is lost where it is read: white space, a lexeme, white space and the next
lexeme stand one behind the other, up to the end or to a comment.

* `Escaped` — what stands between two quotes, and the text that it says;
* `Spans` — the characters of one lexeme, in front of others;
* `Covers` — white space and lexemes in turn, each at its position;
* `covers_of_readFrom` — what is read covers the characters, one branch of the reader after another;
* `readAll_covers` — the lexemes of a text, in order of their positions.
-/

namespace StableLocator
namespace Lexeme

/-! ## One lexeme -/

/-- Characters between two quotes and the text that they say. The quote itself stands there only behind
a backslash. -/
inductive Escaped (quote : Char) : List Char → List Char → Prop
  | nil : Escaped quote [] []
  | pair (c : Char) {raw content : List Char} (h : Escaped quote raw content) :
      Escaped quote ('\\' :: c :: raw) (unescaped c :: content)
  | plain {c : Char} (hSlash : c ≠ '\\') (hQuote : c ≠ quote) {raw content : List Char}
      (h : Escaped quote raw content) : Escaped quote (c :: raw) (c :: content)

/-- The characters of a lexeme, in front of others: words and numbers go on as far as they can, and a
quoted text ends at the first quote of its kind that is not escaped. -/
inductive Spans : LexemeKind → String → List Char → List Char → Prop
  | word {c : Char} {more rest : List Char} (hStart : isWordStart c = true)
      (hMore : ∀ d ∈ more, isWordPart d = true) (hEnd : ∀ d ∈ rest.head?, isWordPart d = false) :
      Spans .word (String.ofList (c :: more)) (c :: more) rest
  | number {c : Char} {more rest : List Char} (hDigits : ∀ d ∈ c :: more, Text.isDigit d = true)
      (hEnd : ∀ d ∈ rest.head?, Text.isDigit d = false) :
      Spans .number (String.ofList (c :: more)) (c :: more) rest
  | mark {c : Char} {rest : List Char} (hMark : isMark c = true) :
      Spans .mark (String.singleton c) [c] rest
  | text {quote : Char} {raw content rest : List Char} (hQuote : isQuote quote = true)
      (h : Escaped quote raw content) :
      Spans .text (String.ofList content) (quote :: (raw ++ [quote])) rest

/-- Every lexeme has characters. -/
theorem Spans.length_pos {kind : LexemeKind} {value : String} {source rest : List Char}
    (h : Spans kind value source rest) : 0 < source.length := by
  cases h with
  | word | number | mark | text => exact Nat.succ_pos _

/-- All lexemes but quoted texts say what they are written with. -/
theorem Spans.source_eq {kind : LexemeKind} {value : String} {source rest : List Char}
    (h : Spans kind value source rest) (hKind : kind ≠ .text) : source = value.toList := by
  cases h with
  | word | number => exact String.toList_ofList.symm
  | mark => exact (String.toList_singleton _).symm
  | text => exact absurd rfl hKind

/-- A quoted text is taken up to the first quote that is not escaped. -/
theorem escaped_of_takeText? {quote : Char} {cs body left : List Char}
    (h : takeText? quote cs = some (body, left)) :
    ∃ raw, cs = raw ++ quote :: left ∧ Escaped quote raw body := by
  fun_induction takeText? quote cs generalizing body left with
  | case1 => cases h
  | case2 => cases h
  | case3 c rest ih =>
    simp only [Option.map_eq_some_iff, Prod.mk.injEq] at h
    obtain ⟨⟨body, _⟩, hTake, rfl, rfl⟩ := h
    obtain ⟨raw, rfl, hRaw⟩ := ih hTake
    exact ⟨'\\' :: c :: raw, rfl, .pair c hRaw⟩
  | case4 rest =>
    cases h
    exact ⟨[], rfl, .nil⟩
  | case5 c rest hEnd hPair hQuote ih =>
    have hSlash : c ≠ '\\' := ne_backslash hEnd hPair
    simp only [Option.map_eq_some_iff, Prod.mk.injEq] at h
    obtain ⟨⟨body, _⟩, hTake, rfl, rfl⟩ := h
    obtain ⟨raw, rfl, hRaw⟩ := ih hTake
    exact ⟨c :: raw, rfl, .plain hSlash hQuote hRaw⟩

/-! ## All lexemes -/

/-- From a position on, white space and lexemes stand in turn; each lexeme has the position where its
characters begin. White space comes at the end, and then nothing or a comment. -/
inductive Covers : Nat → List Char → List Lexeme → Prop
  | last {position : Nat} (gap : List Char) {rest : List Char} (hGap : ∀ c ∈ gap, Text.isBlank c = true)
      (hEnd : rest = [] ∨ beginsNote rest = true) : Covers position (gap ++ rest) []
  | lexeme {t : Lexeme} {lexemes : List Lexeme} {position : Nat} (gap : List Char)
      {source rest : List Char} (hGap : ∀ c ∈ gap, Text.isBlank c = true)
      (hPosition : t.position = position + gap.length)
      (hSpans : Spans t.kind t.value source rest)
      (hRest : Covers (t.position + source.length) rest lexemes) :
      Covers position (gap ++ (source ++ rest)) (t :: lexemes)

namespace Covers

variable {position : Nat} {cs : List Char} {lexemes : List Lexeme}

/-- One more blank in front. -/
theorem blank {c : Char} (hBlank : Text.isBlank c = true) (h : Covers (position + 1) cs lexemes) :
    Covers position (c :: cs) lexemes := by
  cases h with
  | @last _ gap rest hGap hEnd =>
    exact .last (c :: gap) (List.forall_mem_cons.mpr ⟨hBlank, hGap⟩) hEnd
  | @lexeme t lexemes _ gap source rest hGap hPosition hSpans hRest =>
    refine .lexeme (c :: gap) (List.forall_mem_cons.mpr ⟨hBlank, hGap⟩) ?_ hSpans hRest
    rw [hPosition, List.length_cons]
    omega

/-- A lexeme at the position itself, and then others. -/
theorem cons {kind : LexemeKind} {value : String} {source rest : List Char}
    (hSpans : Spans kind value source rest)
    (h : Covers (position + source.length) rest lexemes) :
    Covers position (source ++ rest) (⟨kind, value, position⟩ :: lexemes) :=
  .lexeme [] (fun _ hc => absurd hc List.not_mem_nil) rfl
    hSpans h

/-- Each lexeme stands at its position, counted from where the characters begin. -/
theorem stands (h : Covers position cs lexemes) :
    ∀ t ∈ lexemes, position ≤ t.position ∧ ∃ source rest,
      cs.drop (t.position - position) = source ++ rest ∧ Spans t.kind t.value source rest := by
  induction h with
  | last => exact fun t ht => absurd ht List.not_mem_nil
  | @lexeme t lexemes position gap source rest hGap hPosition hSpans hRest ih =>
    intro u hu
    rcases List.mem_cons.mp hu with rfl | hu
    · refine ⟨by omega, source, rest, ?_, hSpans⟩
      have hDrop : u.position - position = gap.length := by omega
      rw [hDrop, List.drop_left]
    · obtain ⟨hLe, source', rest', hDrop', hSpans'⟩ := ih u hu
      refine ⟨by omega, source', rest', ?_, hSpans'⟩
      -- What is dropped in front of the others is the gap, the lexeme and what they drop.
      have hSum : u.position - position =
          (gap ++ source).length + (u.position - (t.position + source.length)) := by
        rw [List.length_append]
        omega
      rw [hSum, ← List.append_assoc, List.drop_length_add_append]
      exact hDrop'

/-- The positions increase from lexeme to lexeme. -/
theorem increasing (h : Covers position cs lexemes) :
    lexemes.Pairwise fun t u => t.position < u.position := by
  induction h with
  | last => exact .nil
  | @lexeme t lexemes position gap source rest hGap hPosition hSpans hRest ih =>
    -- The lexemes behind begin after the characters of this one, of which there is one at least.
    refine .cons (fun u hu => ?_) ih
    have hLe : t.position + source.length ≤ u.position := (hRest.stands u hu).1
    have hPos : 0 < source.length := hSpans.length_pos
    omega

end Covers

/-! ## Reading -/

theorem not_of_mem_head?_dropWhile {p : Char → Bool} (cs : List Char) :
    ∀ d ∈ (cs.dropWhile p).head?, p d = false := by
  intro d hd
  have hHead := List.head?_dropWhile_not p cs
  rw [hd] at hHead
  simpa using hHead

/-- The lexemes that are read cover the characters: one branch of the reader after another. -/
theorem covers_of_readFrom {position : Nat} {cs : List Char} {lexemes : List Lexeme}
    (h : readFrom position cs = .ok lexemes) : Covers position cs lexemes := by
  fun_induction readFrom position cs generalizing lexemes with
  | case1 position =>
    cases h
    exact .last [] (fun _ hc => absurd hc List.not_mem_nil) (.inl rfl)
  | case2 position c rest hBlank ih => exact .blank hBlank (ih h)
  | case3 position c rest _ hNote =>
    cases h
    exact .last [] (fun _ hc => absurd hc List.not_mem_nil) (.inr hNote)
  | case4 => cases h
  | case5 position quote rest _ _ hQuote body left hTake _ ih =>
    obtain ⟨others, hOthers, rfl⟩ := map_eq_ok.mp h
    obtain ⟨raw, rfl, hRaw⟩ := escaped_of_takeText? hTake
    -- The reader counts what is left over; the lexeme is what stands between the quotes, and these.
    have hText : quote :: (raw ++ quote :: left) = quote :: (raw ++ [quote]) ++ left := by simp
    have hLength : position + 1 + ((raw ++ quote :: left).length - left.length) =
        position + (quote :: (raw ++ [quote])).length := by
      simp only [List.length_append, List.length_cons, List.length_nil]
      omega
    rw [hLength] at ih hOthers
    rw [hText]
    exact .cons (.text hQuote hRaw) (ih hOthers)
  | case6 position c rest _ _ _ hDigit digits =>
    rename_i ih
    obtain ⟨others, hOthers, rfl⟩ := map_eq_ok.mp h
    have hText : c :: rest = digits ++ rest.dropWhile Text.isDigit := by
      rw [List.cons_append, List.takeWhile_append_dropWhile]
    have hDigits : ∀ d ∈ digits, Text.isDigit d = true :=
      List.forall_mem_cons.mpr ⟨hDigit, fun d hd => List.all_eq_true.mp List.all_takeWhile d hd⟩
    rw [hText]
    exact .cons (.number hDigits (not_of_mem_head?_dropWhile rest)) (ih hOthers)
  | case7 position c rest _ _ _ _ hMark ih =>
    obtain ⟨others, hOthers, rfl⟩ := map_eq_ok.mp h
    have hSpans : Spans .mark (String.singleton c) [c] rest := .mark hMark
    exact Covers.cons hSpans (ih hOthers)
  | case8 position c rest _ _ _ _ _ hStart word =>
    rename_i ih
    obtain ⟨others, hOthers, rfl⟩ := map_eq_ok.mp h
    have hText : c :: rest = word ++ rest.dropWhile isWordPart := by
      rw [List.cons_append, List.takeWhile_append_dropWhile]
    have hParts : ∀ d ∈ rest.takeWhile isWordPart, isWordPart d = true :=
      fun d hd => List.all_eq_true.mp List.all_takeWhile d hd
    rw [hText]
    exact .cons (.word hStart hParts (not_of_mem_head?_dropWhile rest)) (ih hOthers)
  | case9 => cases h

/-- The lexemes of a text stand in it at increasing positions. Each spans its characters there, which
are what it says unless it is a quoted text; between the lexemes there is white space only, and at the
end white space and possibly a comment. -/
theorem readAll_covers {s : String} {lexemes : List Lexeme} (h : readAll s = .ok lexemes) :
    (lexemes.Pairwise fun t u => t.position < u.position) ∧
      (∀ t ∈ lexemes,
        (t.kind ≠ .text → t.value.toList <+: s.toList.drop t.position) ∧
          ∃ source rest, s.toList.drop t.position = source ++ rest ∧
            Spans t.kind t.value source rest) ∧
      Covers 0 s.toList lexemes := by
  have hCovers : Covers 0 s.toList lexemes := covers_of_readFrom h
  refine ⟨hCovers.increasing, ?_, hCovers⟩
  intro t ht
  obtain ⟨_, source, rest, hDrop, hSpans⟩ := hCovers.stands t ht
  refine ⟨?_, source, rest, hDrop, hSpans⟩
  intro hKind
  exact ⟨rest, by rw [← hSpans.source_eq hKind]; exact hDrop.symm⟩

/-- A text with an escape, a digit that goes on no word, and a comment. -/
theorem readAll_covers_comment :
    readAll "a²b 7é 'it\\'s' // x" =
        .ok [⟨.word, "a²b", 0⟩, ⟨.number, "7", 4⟩, ⟨.word, "é", 5⟩, ⟨.text, "it's", 7⟩] ∧
      Covers 0 "a²b 7é 'it\\'s' // x".toList
        [⟨.word, "a²b", 0⟩, ⟨.number, "7", 4⟩, ⟨.word, "é", 5⟩, ⟨.text, "it's", 7⟩] := by
  have hRead : readAll "a²b 7é 'it\\'s' // x" =
      .ok [⟨.word, "a²b", 0⟩, ⟨.number, "7", 4⟩, ⟨.word, "é", 5⟩, ⟨.text, "it's", 7⟩] :=
    toOption_eq_some.mp (by decide +kernel)
  exact ⟨hRead, (readAll_covers hRead).2.2⟩

end Lexeme
end StableLocator
