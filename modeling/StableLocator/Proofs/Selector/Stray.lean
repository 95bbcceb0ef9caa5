import StableLocator.Proofs.Selector.Segments

/-!
# Segments with stray characters

A tag is written into a selector as it stands, so that characters which go on no name become tests of
their own, or nothing that can be read. As long as none of them joins tests or opens a bracket, the
segment stays one segment: it asks for the name that the tag begins with.

* `IsInner` — the characters that stay within a segment;
* `exists_writes_inner` — what is read of them: tests of one element, or nothing;
* `Levels` — tokens that ask for a type at each level, besides whatever else;
* `Levels.matchesUp_of_holds` — where the formula of such tokens holds, the types hold along the way up;
* `matchesUp_bare_of_mem` — so a written chain selects only elements with the names that the tags begin
  with.
-/

namespace StableLocator
namespace Selector

/-- The signs that join tests, open a bracket, part a namespace from a name or escape what follows. -/
def joiningSigns : List Char := [',', '+', '~', '(', '[', '|', '\\']

/-- The character neither joins tests nor opens a bracket, and is no blank and no null character. -/
def IsInner (c : Char) : Prop :=
  c ∉ joiningSigns ++ [' ', '\t', '\n', '\x0c', '\r', '/', '>'] ∧ c.toNat ≠ 0

/-- A token that opens no bracket, joins no tests and counts within reach. -/
def Token.isLone : Token → Bool
  | .openFunction _ | .openNth _ _ | .combinator _ | .attribute _ _ => false
  | .nth _ _ places => !places.isFar
  | _ => true

/-! ## Names among inner characters -/

section Inner

variable {word rest : List Char} (hWord : ∀ c ∈ word, IsInner c) (hEnd : EndsPart rest)
include hWord hEnd

/-- Neither the characters nor what comes behind them begins with a sign that joins tests. -/
theorem ne_joining_cons {d : Char} (hd : d ∈ joiningSigns) (tail : List Char) :
    word ++ rest ≠ d :: tail := by
  intro hStart
  cases word with
  | nil =>
    have hNone : ∀ d ∈ joiningSigns, ¬(d = '.' ∨ d = ':' ∨ d = ' ') := by simp [joiningSigns]
    exact hEnd.ne_cons (hNone d hd) tail hStart
  | cons c word =>
    have hInner := (hWord c List.mem_cons_self).1
    rw [(List.cons.inj hStart).1] at hInner
    exact hInner (List.mem_append_left _ hd)

/-- Where a name has ended among inner characters, no character goes on it. -/
theorem nameTail_dropWhile :
    nameTail (word.dropWhile isNameChar ++ rest) = ([], word.dropWhile isNameChar ++ rest) := by
  cases hStray : word.dropWhile isNameChar with
  | nil => exact nameTail_of_endsPart hEnd
  | cons d stray =>
    have hName : isNameChar d = false := by
      have hHead := List.head?_dropWhile_not isNameChar word
      rwa [hStray] at hHead
    have hSlash : d ≠ '\\' := by
      rintro rfl
      have hMem : '\\' ∈ word := (List.dropWhile_suffix isNameChar).subset (hStray ▸ List.mem_cons_self)
      exact (hWord '\\' hMem).1 (by decide)
    rw [List.cons_append, nameTail, if_neg hSlash, if_neg (by simp [hName])]

/-- In an inner word a name goes as far as there are characters of names. -/
theorem nameTail_inner :
    nameTail (word ++ rest) =
      ((word.takeWhile isNameChar).map some, word.dropWhile isNameChar ++ rest) := by
  have hName : ∀ c ∈ word.takeWhile isNameChar, isNameChar c = true :=
    List.all_eq_true.1 List.all_takeWhile
  have hParts := nameTail_append hName (word.dropWhile isNameChar ++ rest)
  rwa [nameTail_dropWhile hWord hEnd, List.append_nil, ← List.append_assoc,
    List.takeWhile_append_dropWhile] at hParts

/-- A name leaves inner characters and what comes behind them. -/
theorem exists_left_of_readName? {name : Spelling} {left : List Char}
    (h : readName? (word ++ rest) = some (name, left)) :
    ∃ more, more <:+ word ∧ left = more ++ rest := by
  have hLeft : left = (nameTail (word ++ rest)).2 := left_of_readName? h
  refine ⟨word.dropWhile isNameChar, List.dropWhile_suffix _, ?_⟩
  rw [hLeft, nameTail_inner hWord hEnd]

/-! ## Tokens among inner characters -/

/-- A state leaves inner characters and what comes behind them; no bracket makes it a function. -/
theorem readState?_inner {t : Token} {left : List Char}
    (h : readState? (word ++ rest) = some (t, left)) :
    t.isLone = true ∧ ∃ more, more <:+ word ∧ left = more ++ rest := by
  simp only [readState?, Option.bind_eq_bind, Option.bind_eq_some_iff, Prod.exists] at h
  obtain ⟨written, after, hName, name, _, h⟩ := h
  obtain ⟨more, hMore, rfl⟩ := exists_left_of_readName? hWord hEnd hName
  split at h
  · rename_i hBracket
    have hInner : ∀ c ∈ more, IsInner c := fun c hc => hWord c (hMore.subset hc)
    exact absurd hBracket (ne_joining_cons hInner hEnd (by decide) _)
  · cases h
    exact ⟨rfl, more, hMore, rfl⟩

/-- A type that is read from a word leaves an end of the word. -/
theorem readTypeName?_inner {name : Spelling} {left : List Char}
    (h : readTypeName? (word ++ rest) = some (name, left)) :
    ∃ more, more <:+ word ∧ left = more ++ rest := by
  unfold readTypeName? at h
  split at h
  · rename_i hStar
    cases h
    cases word with
    | nil => exact absurd hStar (hEnd.ne_cons (by decide) _)
    | cons c word =>
      obtain ⟨_, rfl⟩ := List.cons.inj hStar
      exact ⟨word, List.suffix_cons c word, rfl⟩
  · exact exists_left_of_readName? hWord hEnd h

/-- A type leaves inner characters and what comes behind them; no bar makes it a namespace. -/
theorem readType?_inner {t : Token} {left : List Char}
    (h : readType? (word ++ rest) = some (t, left)) :
    t.isLone = true ∧ ∃ more, more <:+ word ∧ left = more ++ rest := by
  unfold readType? at h
  split at h
  · rename_i name after hName
    obtain ⟨more, hMore, rfl⟩ := readTypeName?_inner hWord hEnd hName
    have hInner : ∀ c ∈ more, IsInner c := fun c hc => hWord c (hMore.subset hc)
    rw [readSpacedType?_eq_none name (ne_joining_cons hInner hEnd (by decide))] at h
    cases h
    refine ⟨?_, more, hMore, rfl⟩
    cases name with
    | text => rfl
    | unheld => rfl
  · rw [readSpacedType?_eq_none _ (ne_joining_cons hWord hEnd (by decide))] at h
    cases h

end Inner

section Token

variable {c : Char} {word rest : List Char} (hFirst : IsInner c) (hWord : ∀ c ∈ word, IsInner c)
  (hEnd : EndsPart rest)

include hFirst in
theorem IsInner.skipBlanks_cons (more : List Char) : skipBlanks (c :: more) = c :: more := by
  refine Selector.skipBlanks_cons (fun d hd hSame => hFirst.1 ?_) more
  have hAll : [' ', '\t', '\n', '\x0c', '\r', '/'] ⊆
      joiningSigns ++ [' ', '\t', '\n', '\x0c', '\r', '/', '>'] := by simp
  exact hSame ▸ hAll hd

include hFirst in
theorem IsInner.isMarkupBlank : Text.isMarkupBlank c = false := by
  have hNone := hFirst.1
  simp only [joiningSigns, List.cons_append, List.nil_append, List.mem_cons, not_or] at hNone
  simp [Text.isMarkupBlank, hNone]

include hFirst in
/-- An inner character is no combinator, and begins none. -/
theorem IsInner.readCombinator?_cons (more : List Char) : readCombinator? (c :: more) = none := by
  have hNone : combinatorOf? c = none := by
    unfold combinatorOf?
    split
    all_goals first
      | exact absurd (by decide) hFirst.1
      | rfl
  have hComments : skipComments (c :: more) = c :: more := by
    unfold skipComments
    split
    · rename_i hSlash
      exact absurd (by rw [(List.cons.inj hSlash).1]; decide) hFirst.1
    · rfl
  have hAfter : afterBlanks? (c :: more) = none := by
    rw [afterBlanks?, hComments]
    simp [hFirst.isMarkupBlank]
  simp [readCombinator?, hFirst.skipBlanks_cons, hNone, hAfter]

include hFirst hWord hEnd in
/-- A token that begins with an inner character tests one element, and leaves inner characters and what
comes behind them. -/
theorem readToken?_inner {t : Token} {left : List Char}
    (h : readToken? (c :: word ++ rest) = some (t, left)) :
    t.isLone = true ∧ ∃ more, more <:+ c :: word ∧ left = more ++ rest := by
  have hAll : ∀ d ∈ c :: word, IsInner d := List.forall_mem_cons.2 ⟨hFirst, hWord⟩
  have hNamed {test : Spelling → Token} (hTest : ∀ name, (test name).isLone = true)
      (h : (readName? (word ++ rest)).map (fun read => (test read.1, read.2)) = some (t, left)) :
      t.isLone = true ∧ ∃ more, more <:+ c :: word ∧ left = more ++ rest := by
    simp only [Option.map_eq_some_iff, Prod.mk.injEq, Prod.exists] at h
    obtain ⟨name, after, hName, rfl, rfl⟩ := h
    obtain ⟨more, hMore, hLeft⟩ := exists_left_of_readName? hWord hEnd hName
    exact ⟨hTest name, more, hMore.trans (List.suffix_cons c word), hLeft⟩
  have hOne : word <:+ c :: word := List.suffix_cons c word
  -- The first character decides what kind of token it is, and none of these kinds is joined to others.
  unfold readToken? at h
  rw [List.cons_append, hFirst.skipBlanks_cons] at h
  split at h
  · rename_i hClose
    cases hClose
    cases h
    exact ⟨rfl, word, hOne, rfl⟩
  · split at h
    · rename_i hSign
      cases hSign
      obtain ⟨hLone, more, hMore, hLeft⟩ := readState?_inner hWord hEnd h
      exact ⟨hLone, more, hMore.trans hOne, hLeft⟩
    · rename_i hSign
      cases hSign
      cases h
      exact ⟨rfl, word, hOne, rfl⟩
    · rename_i hSign
      cases hSign
      exact hNamed (fun _ => rfl) h
    · rename_i hSign
      cases hSign
      exact hNamed (fun _ => rfl) h
    · rename_i hSign
      cases hSign
      exact absurd (by decide) hFirst.1
    · rw [hFirst.readCombinator?_cons, Option.map_none] at h
      have hType : readType? (c :: word ++ rest) = some (t, left) := by simpa using h
      exact readType?_inner hAll hEnd hType

end Token

/-- What is read is what is read further on with tests of one element in front, if anything. -/
def ReadsBefore (read? tokens? : Option (List Token)) : Prop :=
  ∀ read ∈ read?, ∃ lone, ∃ tokens ∈ tokens?, read = lone ++ tokens ∧ ∀ t ∈ lone, t.isLone = true

theorem ReadsBefore.refl (tokens? : Option (List Token)) : ReadsBefore tokens? tokens? :=
  fun read hRead => ⟨[], read, hRead, rfl, fun _ h => absurd h List.not_mem_nil⟩

theorem ReadsBefore.trans {read? middle? tokens? : Option (List Token)}
    (h : ReadsBefore read? middle?) (hMiddle : ReadsBefore middle? tokens?) :
    ReadsBefore read? tokens? := by
  intro read hRead
  obtain ⟨lone, middle, hMem, rfl, hLone⟩ := h read hRead
  obtain ⟨more, tokens, hTokens, rfl, hMore⟩ := hMiddle middle hMem
  refine ⟨lone ++ more, tokens, hTokens, (List.append_assoc lone more tokens).symm, ?_⟩
  exact List.forall_mem_append.2 ⟨hLone, hMore⟩

/-- Lone tokens may be put in front of what is read. -/
theorem ReadsBefore.map {lone : List Token} (hLone : ∀ t ∈ lone, t.isLone = true)
    (tokens? : Option (List Token)) : ReadsBefore (tokens?.map (lone ++ ·)) tokens? := by
  intro read hRead
  obtain ⟨tokens, hTokens, rfl⟩ := Option.map_eq_some_iff.1 hRead
  exact ⟨lone, tokens, hTokens, rfl, hLone⟩

/-- Inner characters are read as tests of one element in front of what is read behind them, or make all
of it unreadable. -/
theorem exists_writes_inner {word rest : List Char} (hWord : ∀ c ∈ word, IsInner c)
    (hEnd : EndsPart rest) {tokens? : Option (List Token)} (h : Writes rest tokens?) :
    ∃ read?, Writes (word ++ rest) read? ∧ ReadsBefore read? tokens? := by
  -- Each token leaves a shorter word.
  induction hLength : word.length using Nat.strongRecOn generalizing word with
  | ind n ih =>
    cases word with
    | nil => exact ⟨tokens?, h, .refl tokens?⟩
    | cons c word =>
      obtain ⟨hFirst, hMore⟩ := List.forall_mem_cons.1 hWord
      have hInk : hasInk (c :: word ++ rest) = true := hasInk_cons hFirst.isMarkupBlank _
      have hRefused (hRead : ∀ token left, readToken? (c :: word ++ rest) = some (token, left) →
          (c :: word ++ rest).length ≤ left.length) :
          ∃ read?, Writes (c :: word ++ rest) read? ∧ ReadsBefore read? tokens? :=
        ⟨none, .refused hInk hRead, fun _ hNone => by cases hNone⟩
      cases hToken : readToken? (c :: word ++ rest) with
      | none => exact hRefused fun _ _ hRead => by cases hToken.symm.trans hRead
      | some found =>
        obtain ⟨token, left⟩ := found
        obtain ⟨hLone, more, ⟨piece, hPiece⟩, rfl⟩ := readToken?_inner hFirst hMore hEnd hToken
        cases piece with
        | nil =>
          refine hRefused fun _ _ hRead => ?_
          cases hToken.symm.trans hRead
          have hSame : more = c :: word := hPiece
          exact Nat.le_of_eq (by rw [hSame])
        | cons d piece =>
          have hInner : ∀ c ∈ more, IsInner c := fun c hc =>
            hWord c (hPiece ▸ List.mem_append_right _ hc)
          have hShorter : more.length < n := by
            rw [← hLength, ← hPiece, List.length_append, List.length_cons]
            omega
          obtain ⟨read?, hWrites, hBefore⟩ := ih more.length hShorter hInner rfl
          have hBlank : Text.isMarkupBlank d = false :=
            (hWord d (hPiece ▸ List.mem_cons_self)).isMarkupBlank
          rw [← hPiece, List.append_assoc] at hToken ⊢
          refine ⟨_, .cons (hasInk_cons hBlank piece) hToken hWrites, ?_⟩
          have hOne : ∀ t ∈ [token], t.isLone = true := List.forall_mem_singleton.2 hLone
          exact ReadsBefore.trans (.map hOne read?) hBefore

/-! ## Segments -/

def bareTag (tag : String) : String := String.ofList (tag.toList.takeWhile isNameChar)

/-- The bare tag consists of characters of the tag. -/
theorem mem_of_mem_bareTag {tag : String} {c : Char} (h : c ∈ (bareTag tag).toList) :
    c ∈ tag.toList := by
  rw [bareTag, String.toList_ofList] at h
  exact (List.takeWhile_sublist _).subset h

namespace Segment

/-- What the segment asks of the tag. -/
def bare (s : Segment) : Segment := ⟨bareTag s.tag, [], none⟩

/-- The tag of the segment begins with a letter and has no characters that lead out of the segment, and
its classes are legible. -/
structure Contained (s : Segment) : Prop where
  begins : s.Begins
  inner : ∀ c ∈ s.tag.toList, IsInner c
  classes : ∀ token ∈ s.classes, token ≠ "" ∧ token ≠ "-"

/-- The bare tag of a segment that begins with a letter is a bare name. -/
theorem Begins.isBareName {s : Segment} (h : s.Begins) : IsBareName (bareTag s.tag) := by
  obtain ⟨c, more, hChars, hFirst⟩ := h
  refine ⟨c, more.takeWhile isNameChar, ?_, hFirst, List.all_eq_true.1 List.all_takeWhile⟩
  rw [bareTag, String.toList_ofList, hChars, List.takeWhile_cons_of_pos (isNameChar_of_isAlpha hFirst)]

variable {rest : List Char} {tokens? : Option (List Token)}

/-- A segment is read as the type that its tag begins with and tests of the same element, if it can be
read. -/
theorem Contained.exists_writes {s : Segment} (hs : s.Contained) (hEnd : EndsPart rest)
    (h : Writes rest tokens?) :
    ∃ read?, Writes (s.chars ++ rest) (read?.map (.type (bareTag s.tag) :: ·)) ∧
      ReadsBefore read? tokens? := by
  have hPosition := endsPart_position s.position? hEnd
  have hBehind := endsPart_classChars s.classes hPosition
  have hClasses := writes_classes hs.classes hPosition (writes_position s h)
  -- Where the bare name ends, the stray characters of the tag begin.
  have hStray : ∀ c ∈ s.tag.toList.dropWhile isNameChar, IsInner c := fun c hc =>
    hs.inner c ((List.dropWhile_suffix _).subset hc)
  obtain ⟨read?, hWrites, hBefore⟩ := exists_writes_inner hStray hBehind hClasses
  have hRead := readToken?_type hs.begins.isBareName (nameTail_dropWhile hs.inner hBehind)
    (ne_joining_cons hStray hBehind (by decide))
  have hInk : hasInk (bareTag s.tag).toList = true := by
    obtain ⟨c, more, hChars, hFirst, _⟩ := hs.begins.isBareName
    rw [hChars]
    exact hasInk_cons (isMarkupBlank_of_isAlpha hFirst) more
  have hAll := Writes.cons hInk hRead hWrites
  refine ⟨read?, ?_, hBefore.trans ?_⟩
  · -- The tag is its bare name and the characters from the first that goes on no name.
    rw [bareTag, String.toList_ofList, ← List.append_assoc, List.takeWhile_append_dropWhile] at hAll
    rw [chars, List.append_assoc, List.append_assoc]
    exact hAll
  · refine ReadsBefore.trans (.map (by simp [Token.isLone]) _) ?_
    by_cases hShort : s.HasShortPosition
    · rw [if_pos hShort]
      refine .map (fun t ht => ?_) tokens?
      cases hk : s.position? with
      | none =>
        rw [hk] at ht
        exact absurd ht List.not_mem_nil
      | some k =>
        rw [hk] at ht
        rw [List.mem_singleton.1 ht]
        rfl
    · rw [if_neg hShort]
      exact fun _ hNone => by cases hNone

end Segment

/-- Tokens of a chain: each level begins with the type that its tag begins with and goes on with tests
of the same element. -/
inductive Levels : List Segment → List Token → Prop
  | last {s : Segment} {lone : List Token} (hLone : ∀ t ∈ lone, t.isLone = true) :
      Levels [s] (.type (bareTag s.tag) :: lone)
  | next {s next : Segment} {segments : List Segment} {lone tokens : List Token}
      (hLone : ∀ t ∈ lone, t.isLone = true) (h : Levels (next :: segments) tokens) :
      Levels (s :: next :: segments)
        (.type (bareTag s.tag) :: (lone ++ .combinator .child :: tokens))

/-- Written segments are read as a chain of levels, if they can be read. -/
theorem exists_writes_levels {segments : List Segment} (hSome : segments ≠ [])
    (h : ∀ s ∈ segments, s.Contained) :
    ∃ read?, Writes (chainChars segments) read? ∧ ∀ read ∈ read?, Levels segments read := by
  -- From the last level outwards: what is written behind a level is known when the level is read.
  induction segments with
  | nil => exact absurd rfl hSome
  | cons s segments ih =>
    have hs : s.Contained := h s List.mem_cons_self
    cases segments with
    | nil =>
      have hEnd : EndsPart [] := by simp [EndsPart]
      obtain ⟨read?, hWrites, hBefore⟩ := hs.exists_writes hEnd .nil
      rw [List.append_nil] at hWrites
      refine ⟨_, hWrites, fun tokens hTokens => ?_⟩
      obtain ⟨read, hRead, rfl⟩ := Option.map_eq_some_iff.1 hTokens
      obtain ⟨lone, nothing, hNothing, rfl, hLone⟩ := hBefore read hRead
      cases hNothing
      rw [List.append_nil]
      exact .last hLone
    | cons next segments =>
      obtain ⟨rest?, hRest, hLevels⟩ := ih (List.cons_ne_nil _ _) fun t ht =>
        h t (List.mem_cons_of_mem _ ht)
      obtain ⟨c, more, hChars, hFirst⟩ := head_chainChars (h next (by simp)).begins segments
      rw [hChars] at hRest
      have hChild : Writes ([' ', '>', ' '] ++ c :: more) _ :=
        Writes.cons (by decide) (readToken?_child hFirst more) hRest
      have hEnd : EndsPart ([' ', '>', ' '] ++ c :: more) := fun d hd =>
        .inr (.inr (Option.some.inj hd).symm)
      obtain ⟨read?, hWrites, hBefore⟩ := hs.exists_writes hEnd hChild
      rw [chainChars, hChars]
      refine ⟨_, hWrites, fun tokens hTokens => ?_⟩
      obtain ⟨read, hRead, rfl⟩ := Option.map_eq_some_iff.1 hTokens
      obtain ⟨lone, joined, hJoined, rfl, hLone⟩ := hBefore read hRead
      obtain ⟨rest, hMem, rfl⟩ := Option.map_eq_some_iff.1 hJoined
      exact .next hLone (hLevels rest hMem)

/-! ## What the levels ask for -/

/-- A state asks nothing about rows. -/
theorem isDirect_of_stateFormula? {name : String} {f : Formula} (h : stateFormula? name = some f) :
    f.isDirect = true := by
  unfold stateFormula? at h
  split at h
  all_goals first
    | cases h; rfl
    | cases h

theorem started_of_mem {g : Group} {f : Formula} (h : f ∈ g.tests) : g.started = true := by
  rw [Group.started]
  cases hTests : g.tests with
  | nil =>
    rw [hTests] at h
    exact absurd h List.not_mem_nil
  | cons => rfl

/-- A token that tests one element puts a test into a group that has one, or has no place in it. -/
theorem stepGroups_lone {g : Group} (hStarted : g.started = true) {t : Token} (hLone : t.isLone = true)
    {groups : Groups} (h : stepGroups [g] t = some groups) :
    ∃ f : Formula, f.isDirect = true ∧ groups = [g.test f] := by
  cases t with
  | type name =>
    rw [stepGroups, if_pos hStarted] at h
    cases h
  | foreignType =>
    rw [stepGroups, if_pos hStarted] at h
    cases h
  | id value =>
    cases h
    cases value with
    | text => exact ⟨_, rfl, rfl⟩
    | unheld => exact ⟨_, rfl, rfl⟩
  | token name =>
    cases h
    cases name with
    | text => exact ⟨_, rfl, rfl⟩
    | unheld => exact ⟨_, rfl, rfl⟩
  | scope =>
    cases h
    exact ⟨_, rfl, rfl⟩
  | state name =>
    obtain ⟨f, hState, hTest⟩ := Option.bind_eq_some_iff.1 h
    cases hTest
    exact ⟨f, isDirect_of_stateFormula? hState, rfl⟩
  | nth fromEnd ofType places =>
    cases h
    refine ⟨_, ?_, rfl⟩
    simpa [Formula.isDirect, Token.isLone] using hLone
  | close =>
    rw [stepGroups, if_pos List.isEmpty_nil] at h
    cases h
  | _ => cases hLone

/-- Tests of one element leave a group with its tests and others. -/
theorem foldlM_lone {lone : List Token} (hLone : ∀ t ∈ lone, t.isLone = true) {g : Group}
    (hStarted : g.started = true) {groups : Groups} (h : lone.foldlM stepGroups [g] = some groups) :
    ∃ tests, groups = [{ g with tests := tests }] ∧ (∀ f ∈ g.tests, f ∈ tests) ∧
      ((∀ f ∈ g.tests, f.isDirect = true) → ∀ f ∈ tests, f.isDirect = true) := by
  induction lone generalizing g with
  | nil =>
    cases h
    exact ⟨g.tests, rfl, fun _ hf => hf, fun hDirect => hDirect⟩
  | cons t lone ih =>
    obtain ⟨hFirst, hMore⟩ := List.forall_mem_cons.1 hLone
    rw [List.foldlM_cons, Option.bind_eq_bind, Option.bind_eq_some_iff] at h
    obtain ⟨middle, hStep, hRest⟩ := h
    obtain ⟨f, hf, rfl⟩ := stepGroups_lone hStarted hFirst hStep
    have hTests {f' : Formula} : f' ∈ (g.test f).tests ↔ f' = f ∨ f' ∈ g.tests :=
      Formula.mem_insertInto
    have hAgain : (g.test f).started = true := started_of_mem (hTests.2 (.inl rfl))
    obtain ⟨tests, rfl, hKept, hDirect⟩ := ih hMore hAgain hRest
    refine ⟨tests, rfl, fun f' hf' => hKept f' (hTests.2 (.inr hf')), fun hAll => hDirect ?_⟩
    intro f' hf'
    rcases hTests.1 hf' with rfl | hf'
    · exact hf
    · exact hAll f' hf'

/-- The group reads an alternative of which the combinators ask for the outer segments, from the parent
on, besides whatever else. -/
structure Group.Needs (g : Group) (outer : List Segment) : Prop where
  purpose : g.purpose = .anyOf false
  done : g.done = []
  direct : g.left.isDirect = true
  left : ∀ v x, g.left.holds v x = true →
    outer = [] ∨ ∃ p, x.parent? = some p ∧ matchesUp outer p

/-- The alternative that the group has read asks for the segments along the way up, besides whatever
else. -/
structure Group.Asks (g : Group) (segments : List Segment) : Prop where
  purpose : g.purpose = .anyOf false
  done : g.done = []
  started : g.started = true
  direct : g.alternative.isDirect = true
  holds : ∀ v x, g.alternative.holds v x = true → matchesUp segments x

/-- The bare segment holds at the elements whose name its tag begins with. -/
theorem Segment.holds_bare {s : Segment} {x : Spot} :
    s.bare.holds x ↔ Text.lowerAscii (bareTag s.tag) = x.name := by
  simp [Segment.holds, Segment.bare]

/-- A level asks for the type that it begins with. -/
theorem Group.Needs.asks {g : Group} {outer : List Segment} (h : g.Needs outer)
    (hTests : g.tests = []) {s : Segment} (hTag : bareTag s.tag ≠ "*") {lone : List Token}
    (hLone : ∀ t ∈ lone, t.isLone = true) {groups : Groups}
    (hFold : (.type (bareTag s.tag) :: lone).foldlM stepGroups [g] = some groups) :
    ∃ g' : Group, groups = [g'] ∧ g'.Asks (s.bare :: outer) := by
  have hType : stepGroups [g] (.type (bareTag s.tag)) = some [g.test (.type (bareTag s.tag))] := by
    simp [stepGroups, testInner, Group.started, hTests]
  have hFirst : (g.test (.type (bareTag s.tag))).tests = [.type (bareTag s.tag)] := by
    rw [Group.test, hTests]
    rfl
  have hStarted : (g.test (.type (bareTag s.tag))).started = true :=
    started_of_mem (hFirst ▸ List.mem_cons_self)
  rw [List.foldlM_cons, hType, Option.bind_eq_bind, Option.bind_some] at hFold
  -- The lone tokens add tests to that of the type, and take none away.
  obtain ⟨tests, rfl, hKept, hDirect⟩ := foldlM_lone hLone hStarted hFold
  have hMem : .type (bareTag s.tag) ∈ tests := hKept _ (hFirst ▸ List.mem_cons_self)
  have hAll : ∀ f ∈ tests, f.isDirect = true := by
    refine hDirect fun f hf => ?_
    rw [hFirst] at hf
    rw [List.mem_singleton.1 hf]
    rfl
  have hAlternative : ({ g.test (.type (bareTag s.tag)) with tests := tests } : Group).alternative =
      .both (Formula.all tests) g.left := by
    rw [Group.alternative, Group.test, h.purpose, if_neg (by decide)]
    rfl
  refine ⟨_, rfl, h.purpose, h.done, started_of_mem hMem, ?_, fun v x hHolds => ?_⟩
  · rw [hAlternative, Formula.isDirect, h.direct, Bool.and_true]
    exact Formula.isDirect_all hAll
  · rw [hAlternative, Formula.holds, Bool.and_eq_true, Formula.holds_all] at hHolds
    have hName : Text.lowerAscii (bareTag s.tag) = x.name := by
      simpa [Formula.holds, hTag] using hHolds.1 _ hMem
    exact matchesUp_cons.2 ⟨Segment.holds_bare.2 hName, h.left v x hHolds.2⟩

/-- The sign between a parent and a child turns what was asked for into what is asked of the parent. -/
theorem Group.Asks.needs {g : Group} {segments : List Segment} (h : g.Asks segments) {groups : Groups}
    (hStep : stepGroups [g] (.combinator .child) = some groups) :
    ∃ g' : Group, groups = [g'] ∧ g'.tests = [] ∧ g'.Needs segments := by
  have hChild : stepGroups [g] (.combinator .child) =
      some [{ g with left := .look .parent g.alternative, joined := true, tests := [] }] := by
    simp [stepGroups, Group.combine?, h.started, h.purpose, Group.backAxis]
  rw [hChild, Option.some.injEq] at hStep
  refine ⟨_, hStep.symm, rfl, h.purpose, h.done, h.direct, fun v x hHolds => .inr ?_⟩
  simp only [Formula.holds, Axis.spots, List.any_eq_true, Option.mem_toList] at hHolds
  obtain ⟨p, hParent, hAlternative⟩ := hHolds
  exact ⟨p, hParent, h.holds v p hAlternative⟩

/-- The levels of a chain ask for the types that they begin with, along the way up. -/
theorem Levels.asks {segments : List Segment} {tokens : List Token} (h : Levels segments tokens)
    (hTags : ∀ s ∈ segments, bareTag s.tag ≠ "*") {outer : List Segment} {g : Group}
    (hNeeds : g.Needs outer) (hTests : g.tests = []) {groups : Groups}
    (hFold : tokens.foldlM stepGroups [g] = some groups) :
    ∃ g' : Group, groups = [g'] ∧ g'.Asks ((segments.map Segment.bare).reverse ++ outer) := by
  induction h generalizing outer g with
  | last hLone => exact hNeeds.asks hTests (hTags _ List.mem_cons_self) hLone hFold
  | @next s next segments lone tokens hLone _ ih =>
    obtain ⟨hTag, hMore⟩ := List.forall_mem_cons.1 hTags
    -- The level, then the sign behind it, then the levels further in.
    rw [← List.cons_append, List.foldlM_append, Option.bind_eq_bind, Option.bind_eq_some_iff] at hFold
    obtain ⟨read, hLevel, hFold⟩ := hFold
    obtain ⟨g₁, rfl, hAsks⟩ := hNeeds.asks hTests hTag hLone hLevel
    rw [List.foldlM_cons, Option.bind_eq_bind, Option.bind_eq_some_iff] at hFold
    obtain ⟨joined, hStep, hFold⟩ := hFold
    obtain ⟨g₂, rfl, hEmpty, hJoined⟩ := hAsks.needs hStep
    obtain ⟨g₃, rfl, hAll⟩ := ih hMore hJoined hEmpty hFold
    exact ⟨g₃, rfl, by simpa using hAll⟩

/-- Where the formula of a chain of levels holds, the types that they begin with hold along the way
up. -/
theorem Levels.matchesUp_of_holds {segments : List Segment} {tokens : List Token}
    (h : Levels segments tokens) (hTags : ∀ s ∈ segments, bareTag s.tag ≠ "*") {f : Formula}
    (hFormula : formulaOf? tokens = some f) :
    f.isDirect = true ∧
      ∀ v x, f.holds v x = true → matchesUp (segments.map Segment.bare).reverse x := by
  have hStart : ({ purpose := .anyOf false } : Group).Needs [] := ⟨rfl, rfl, rfl, fun _ _ _ => .inl rfl⟩
  rw [formulaOf?] at hFormula
  split at hFormula
  · rename_i g hFold
    obtain ⟨g', hSame, hAsks⟩ := h.asks hTags hStart rfl hFold
    rw [List.append_nil] at hAsks
    cases hSame
    have hFinish : g.finish? = some (.either g.alternative .never) := by
      simp [Group.finish?, hAsks.started, hAsks.done, Group.result, hAsks.purpose, Formula.any]
    rw [hFinish, Option.some.injEq] at hFormula
    subst hFormula
    refine ⟨?_, fun v x hHolds => hAsks.holds v x ?_⟩
    · rw [Formula.isDirect, hAsks.direct]
      rfl
    · simpa [Formula.holds] using hHolds
  · cases hFormula

/-! ## Selecting -/

/-- Written segments whose characters stay within them select only elements with the names that the tags
begin with, along the way up. -/
theorem matchesUp_bare_of_mem {segments : List Segment} (hSome : segments ≠ [])
    (h : ∀ s ∈ segments, s.Contained) {root : Spot} {found : List Spot}
    (hSelect : root.select? (String.ofList (chainChars segments)) = some found) {x : Spot}
    (hx : x ∈ found) : matchesUp (segments.map Segment.bare).reverse x := by
  have hPath : ∀ s ∈ segments, ∀ c ∈ s.tag.toList, IsPathChar c := by
    intro s hs c hc
    have hInner := (h s hs).inner c hc
    refine ⟨?_, hInner.2⟩
    rintro rfl
    exact hInner.1 (by decide)
  have hTags : ∀ s ∈ segments, bareTag s.tag ≠ "*" := by
    intro s hs hStar
    have hName := (h s hs).begins.isBareName.isNameChar '*' (by rw [hStar]; decide)
    revert hName
    decide
  -- However the stray characters are read, each level keeps the test of its bare tag.
  obtain ⟨read?, hWrites, hLevels⟩ := exists_writes_levels hSome h
  have hRead := readAll?_of_writes hPath (fun s hs => (h s (List.mem_of_mem_head? hs)).begins) hWrites
  rw [Spot.select?, Formula.read?, hRead] at hSelect
  simp only [Option.bind_eq_bind, Option.bind_eq_some_iff] at hSelect
  obtain ⟨f, ⟨tokens, hTokens, hFormula⟩, hMatching⟩ := hSelect
  split at hFormula
  · cases hFormula
  · obtain ⟨hDirect, hHolds⟩ := (hLevels tokens hTokens).matchesUp_of_holds hTags hFormula
    rw [Spot.matching?_of_isDirect hDirect, Option.some.injEq] at hMatching
    subst hMatching
    exact hHolds _ x (List.mem_filter.1 hx).2

end Selector
end StableLocator
