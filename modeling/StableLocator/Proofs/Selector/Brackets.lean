import StableLocator.Proofs.Selector.Reads
import StableLocator.Proofs.Selector.Remainder
import StableLocator.Proofs.Selector.Segments
import StableLocator.Selector.Writer

/-!
# Which attributes a selector reads

Besides the attributes that ids, classes and states stand for, a selector reads those that it names in
square brackets, and there are none without an opening bracket.

* `Selector.Token.reads` — what a token names in brackets;
* `Selector.readsOnly_formulaOf?` — a formula reads what its tokens name, and attributes that are read
  anyway;
* `Selector.ignores_of_not_mem` — a selector without an opening bracket names nothing;
* `Selector.ignores_ofId` — the selector of an id reads the id.
-/

namespace StableLocator
namespace Selector

/-! ## Formulas -/

/-- All attributes that a formula reads are among those with the given names. -/
def Formula.ReadsOnly (names : List String) (f : Formula) : Prop := ∀ n ∈ f.reads, n ∈ names

instance (names : List String) (f : Formula) : Decidable (f.ReadsOnly names) :=
  inferInstanceAs (Decidable (∀ n ∈ f.reads, n ∈ names))

variable {names : List String}

theorem Formula.ReadsOnly.mono {f : Formula} {more : List String} (h : f.ReadsOnly names)
    (hMore : names ⊆ more) : f.ReadsOnly more := fun n hn => hMore (h n hn)

theorem readsOnly_both {f g : Formula} :
    (Formula.both f g).ReadsOnly names ↔ f.ReadsOnly names ∧ g.ReadsOnly names := by
  simp only [Formula.ReadsOnly, Formula.reads, List.forall_mem_append]

theorem readsOnly_either {f g : Formula} :
    (Formula.either f g).ReadsOnly names ↔ f.ReadsOnly names ∧ g.ReadsOnly names := by
  simp only [Formula.ReadsOnly, Formula.reads, List.forall_mem_append]

theorem readsOnly_always : Formula.always.ReadsOnly names := fun _ h => absurd h List.not_mem_nil

theorem readsOnly_never : Formula.never.ReadsOnly names := fun _ h => absurd h List.not_mem_nil

theorem readsOnly_id (value : String) : (Formula.id value).ReadsOnly readNames := fun n hn =>
  List.mem_singleton.mp hn ▸ (by decide)

/-- A test of a class reads the classes. -/
theorem readsOnly_token (value : String) : (Formula.token value).ReadsOnly readNames := fun n hn =>
  List.mem_singleton.mp hn ▸ (by decide)

theorem readsOnly_all {fs : List Formula} (h : ∀ f ∈ fs, f.ReadsOnly names) :
    (Formula.all fs).ReadsOnly names := by
  induction fs with
  | nil => exact readsOnly_always
  | cons f fs ih =>
    rw [List.forall_mem_cons] at h
    exact readsOnly_both.mpr ⟨h.1, ih h.2⟩

theorem readsOnly_any {fs : List Formula} (h : ∀ f ∈ fs, f.ReadsOnly names) :
    (Formula.any fs).ReadsOnly names := by
  induction fs with
  | nil => exact readsOnly_never
  | cons f fs ih =>
    rw [List.forall_mem_cons] at h
    exact readsOnly_either.mpr ⟨h.1, ih h.2⟩

/-- The states of controls are told from attributes that are read anyway. -/
theorem readsOnly_stateFormula? {state : String} {f : Formula}
    (h : stateFormula? state = some f) : f.ReadsOnly readNames := by
  unfold stateFormula? at h
  split at h <;> first | (cases h; decide) | cases h

/-! ## Tokens -/

/-- The name of the attribute that a token tests in brackets, in lower case. -/
def Token.reads : Token → List String
  | .attribute (some test) _ => [Text.lowerAscii test.name]
  | _ => []

theorem readsOnly_failing {f : Formula} (h : f.ReadsOnly names) : (failing f).ReadsOnly names :=
  readsOnly_both.mpr ⟨h, readsOnly_never⟩

theorem readsOnly_attributeFormula {test : Option AttrTest} {negated : Bool}
    (hRead : readNames ⊆ names) (h : (Token.attribute test negated).reads ⊆ names) :
    (attributeFormula test).ReadsOnly names := by
  cases test with
  | some t => exact fun n hn => h hn
  | none => exact readsOnly_failing (Formula.ReadsOnly.mono (by decide) hRead)

/-! ## Groups -/

/-- All that a group has collected reads only attributes with the given names. -/
structure Group.ReadsOnly (names : List String) (g : Group) : Prop where
  done : ∀ f ∈ g.done, f.ReadsOnly names
  left : g.left.ReadsOnly names
  steps : ∀ step ∈ g.steps, step.2.ReadsOnly names
  tests : ∀ f ∈ g.tests, f.ReadsOnly names

namespace Group

variable {g : Group}

/-- A group at its start has collected nothing but finished alternatives. -/
theorem ReadsOnly.start (purpose : Purpose) {done : List Formula}
    (h : ∀ f ∈ done, f.ReadsOnly names) : ReadsOnly names { purpose, done } where
  done := h
  left := readsOnly_always
  steps := by simp
  tests := by simp

/-- A test that is put into a group is among what the group reads. -/
theorem ReadsOnly.test (hg : g.ReadsOnly names) {f : Formula} (hf : f.ReadsOnly names) :
    (g.test f).ReadsOnly names where
  done := hg.done
  left := hg.left
  steps := hg.steps
  tests t ht := by
    rcases Formula.mem_insertInto.mp ht with rfl | ht
    · exact hf
    · exact hg.tests t ht

theorem readsOnly_stepsFormula {steps : List (Axis × Formula)}
    (h : ∀ step ∈ steps, step.2.ReadsOnly names) : (stepsFormula steps).ReadsOnly names := by
  have hFold (row : List (Axis × Formula)) (hRow : ∀ step ∈ row, step.2.ReadsOnly names) :
      (row.foldr (fun step rest => .look step.1 (.both step.2 rest)) Formula.always).ReadsOnly
        names := by
    induction row with
    | nil => exact readsOnly_always
    | cons step row ih =>
      rw [List.forall_mem_cons] at hRow
      exact readsOnly_both.mpr ⟨hRow.1, ih hRow.2⟩
  exact hFold steps.reverse fun step hStep => h step (List.mem_reverse.mp hStep)

/-- The alternative of a group reads what its tests read. -/
theorem ReadsOnly.alternative (hg : g.ReadsOnly names) : g.alternative.ReadsOnly names := by
  have hTested : g.tested.ReadsOnly names := readsOnly_all hg.tests
  unfold Group.alternative
  split
  · exact readsOnly_stepsFormula (List.forall_mem_cons.mpr ⟨hTested, hg.steps⟩)
  · exact readsOnly_both.mpr ⟨hTested, hg.left⟩

/-- A combinator adds no test of an attribute. -/
theorem ReadsOnly.combine? {c : Combinator} {g' : Group} (hg : g.ReadsOnly names)
    (h : g.combine? c = some g') : g'.ReadsOnly names := by
  unfold Group.combine? at h
  split at h
  · split at h
    · cases h
      exact .start _ (List.forall_mem_cons.mpr ⟨hg.alternative, hg.done⟩)
    · split at h
      · cases h
        exact ⟨hg.done, hg.left,
          List.forall_mem_cons.mpr ⟨readsOnly_all hg.tests, hg.steps⟩, by simp⟩
      · cases h
        exact ⟨hg.done, hg.alternative, hg.steps, by simp⟩
  · split at h
    · split at h
      · cases h
        exact .start _ hg.done
      · cases h
    · split at h
      · cases h
        exact ⟨hg.done, hg.left, hg.steps, hg.tests⟩
      · cases h

theorem readsOnly_result {alternatives : List Formula}
    (h : ∀ f ∈ alternatives, f.ReadsOnly names) (g : Group) :
    (g.result alternatives).ReadsOnly names := by
  have hAny := readsOnly_any h
  unfold result
  dsimp only
  split <;> exact hAny

/-- What a group says at its end reads what it collected. -/
theorem ReadsOnly.finish? {f : Formula} (hg : g.ReadsOnly names) (h : g.finish? = some f) :
    f.ReadsOnly names := by
  have hAll {last : Formula} (hLast : last.ReadsOnly names) :
      ∀ f ∈ (last :: g.done).reverse, f.ReadsOnly names := fun f hf =>
    List.forall_mem_cons.mpr ⟨hLast, hg.done⟩ f (List.mem_reverse.mp hf)
  unfold Group.finish? at h
  split at h
  · cases h
    exact readsOnly_result (hAll hg.alternative) g
  · split at h
    · cases h
      exact readsOnly_result (hAll readsOnly_never) g
    · cases h

end Group

/-- A test may be put into the innermost group if it reads nothing else. -/
theorem readsOnly_testInner {groups groups' : Groups} {f : Formula}
    (hGroups : ∀ g ∈ groups, g.ReadsOnly names) (hf : f.ReadsOnly names)
    (h : testInner groups f = some groups') : ∀ g ∈ groups', g.ReadsOnly names := by
  cases groups with
  | nil => cases h
  | cons g outer =>
    cases h
    rw [List.forall_mem_cons] at hGroups
    exact List.forall_mem_cons.mpr ⟨hGroups.1.test hf, hGroups.2⟩

/-- A token adds only what it names itself and what is read anyway. -/
theorem readsOnly_stepGroups (hRead : readNames ⊆ names) {groups groups' : Groups} {t : Token}
    (hGroups : ∀ g ∈ groups, g.ReadsOnly names) (ht : t.reads ⊆ names)
    (h : stepGroups groups t = some groups') : ∀ g ∈ groups', g.ReadsOnly names := by
  have hKnown {f : Formula} (hf : f.ReadsOnly readNames) (h : testInner groups f = some groups') :
      ∀ g ∈ groups', g.ReadsOnly names := readsOnly_testInner hGroups (hf.mono hRead) h
  unfold stepGroups at h
  split at h
  · cases h
  · rename_i g outer
    obtain ⟨hInner, hOuter⟩ := List.forall_mem_cons.mp hGroups
    -- Only a token with brackets brings a name from outside; what states read is known beforehand.
    cases t with
    | type name =>
      dsimp only at h
      split at h
      · cases h
      · exact hKnown (fun _ hn => absurd hn List.not_mem_nil) h
    | foreignType =>
      dsimp only at h
      split at h
      · cases h
      · exact hKnown readsOnly_never h
    | id value =>
      cases value with
      | text s => exact hKnown (readsOnly_id s) h
      | unheld => exact hKnown (by decide) h
    | token value =>
      cases value with
      | text s => exact hKnown (readsOnly_token s) h
      | unheld => exact hKnown (by decide) h
    | «attribute» test negated =>
      have hTest := readsOnly_attributeFormula hRead ht
      refine readsOnly_testInner hGroups ?_ h
      split <;> exact hTest
    | scope => exact hKnown (by decide) h
    | state name =>
      simp only [Option.bind_eq_bind, Option.bind_eq_some_iff] at h
      obtain ⟨f, hState, h⟩ := h
      exact hKnown (readsOnly_stateFormula? hState) h
    | nth fromEnd ofType places => exact hKnown (fun _ hn => absurd hn List.not_mem_nil) h
    | openFunction name =>
      simp only [Option.map_eq_some_iff] at h
      obtain ⟨purpose, _, rfl⟩ := h
      exact List.forall_mem_cons.mpr ⟨.start purpose (by simp), hGroups⟩
    | openNth fromEnd places =>
      cases h
      exact List.forall_mem_cons.mpr ⟨.start _ (by simp), hGroups⟩
    | close =>
      dsimp only at h
      split at h
      · cases h
      · simp only [Option.bind_eq_bind, Option.bind_eq_some_iff] at h
        obtain ⟨f, hFinish, h⟩ := h
        exact readsOnly_testInner hOuter (hInner.finish? hFinish) h
    | combinator c =>
      simp only [Option.map_eq_some_iff] at h
      obtain ⟨g', hCombine, rfl⟩ := h
      exact List.forall_mem_cons.mpr ⟨hInner.combine? hCombine, hOuter⟩

/-- Groups read only what the tokens read that were put into them. -/
theorem readsOnly_foldlM (hRead : readNames ⊆ names) {tokens : List Token} {groups groups' : Groups}
    (hGroups : ∀ g ∈ groups, g.ReadsOnly names) (hTokens : ∀ t ∈ tokens, t.reads ⊆ names)
    (h : tokens.foldlM stepGroups groups = some groups') : ∀ g ∈ groups', g.ReadsOnly names := by
  induction tokens generalizing groups with
  | nil =>
    cases h
    exact hGroups
  | cons t tokens ih =>
    rw [List.foldlM_cons, Option.bind_eq_bind, Option.bind_eq_some_iff] at h
    obtain ⟨next, hStep, hRest⟩ := h
    rw [List.forall_mem_cons] at hTokens
    exact ih (readsOnly_stepGroups hRead hGroups hTokens.1 hStep) hTokens.2 hRest

/-- A formula reads what its tokens name in brackets, and what is read anyway. -/
theorem readsOnly_formulaOf? (hRead : readNames ⊆ names) {tokens : List Token} {f : Formula}
    (hTokens : ∀ t ∈ tokens, t.reads ⊆ names) (h : formulaOf? tokens = some f) :
    f.ReadsOnly names := by
  unfold formulaOf? at h
  split at h
  · rename_i g hFold
    have hStart : ∀ g ∈ [({ purpose := .anyOf false } : Group)], g.ReadsOnly names := by
      simpa using Group.ReadsOnly.start (.anyOf false) (by simp)
    exact (readsOnly_foldlM hRead hStart hTokens hFold g (List.mem_singleton_self g)).finish? h
  · cases h

/-! ## Selectors without brackets -/

theorem reads_readSpacedType? {space : Spelling} {cs rest : List Char} {t : Token}
    (h : readSpacedType? space cs = some (t, rest)) : t.reads = [] := by
  unfold readSpacedType? at h
  split at h
  · simp only [Option.map_eq_some_iff, Prod.mk.injEq, Prod.exists] at h
    obtain ⟨name, _, _, rfl, _⟩ := h
    split
    · cases name <;> rfl
    · rfl
  · cases h

/-- A type reads no attribute by a bracket. -/
theorem reads_readType? {cs rest : List Char} {t : Token} (h : readType? cs = some (t, rest)) :
    t.reads = [] := by
  unfold readType? at h
  split at h
  · rename_i name after _
    rw [Option.orElse_eq_some] at h
    rcases h with hSpaced | ⟨_, hPlain⟩
    · exact reads_readSpacedType? hSpaced
    · cases hPlain
      cases name <;> rfl
  · exact reads_readSpacedType? h

/-- A state or function reads no attribute by a bracket. -/
theorem reads_readState? {cs rest : List Char} {t : Token} (h : readState? cs = some (t, rest)) :
    t.reads = [] := by
  unfold readState? at h
  simp only [Option.bind_eq_bind, Option.bind_eq_some_iff, Prod.exists] at h
  obtain ⟨_, _, _, _, _, h⟩ := h
  split at h
  · split at h
    · unfold readCounting? at h
      simp only [Option.bind_eq_bind, Option.bind_eq_some_iff, Prod.exists] at h
      obtain ⟨_, _, _, h⟩ := h
      split at h
      · cases h
        rfl
      · split at h
        · cases h
        · simp only [Option.map_eq_some_iff, Prod.mk.injEq] at h
          obtain ⟨_, _, rfl, _⟩ := h
          rfl
    · cases h
      rfl
  · cases h
    rfl

/-- Only an opening bracket begins a test that names an attribute. -/
theorem reads_readToken? {cs rest : List Char} {t : Token} (hPlain : '[' ∉ cs)
    (h : readToken? cs = some (t, rest)) : t.reads = [] ∧ rest <:+ cs := by
  unfold readToken? at h
  split at h
  · rename_i after hClose
    cases h
    exact ⟨rfl, (List.suffix_cons _ _).trans (hClose ▸ skipBlanks_suffix cs)⟩
  · split at h
    · exact ⟨reads_readState? h, (readState?_suffix h).trans (List.suffix_cons _ _)⟩
    · cases h
      exact ⟨rfl, List.suffix_cons _ _⟩
    · simp only [Option.map_eq_some_iff, Prod.mk.injEq, Prod.exists] at h
      obtain ⟨_, _, hName, rfl, rfl⟩ := h
      exact ⟨rfl, (readName?_suffix hName).trans (List.suffix_cons _ _)⟩
    · simp only [Option.map_eq_some_iff, Prod.mk.injEq, Prod.exists] at h
      obtain ⟨_, _, hName, rfl, rfl⟩ := h
      exact ⟨rfl, (readName?_suffix hName).trans (List.suffix_cons _ _)⟩
    · exact absurd (List.mem_cons_self ..) hPlain
    · rw [Option.orElse_eq_some] at h
      rcases h with hType | ⟨_, hCombinator⟩
      · exact ⟨reads_readType? hType, readType?_suffix hType⟩
      · simp only [Option.map_eq_some_iff, Prod.mk.injEq, Prod.exists] at hCombinator
        obtain ⟨_, _, hFound, rfl, rfl⟩ := hCombinator
        exact ⟨rfl, readCombinator?_suffix hFound⟩

/-- Without a bracket no token reads an attribute of its own. -/
theorem reads_readTokens? {margin : Nat} {cs : List Char} {tokens : List Token}
    (hPlain : '[' ∉ cs) (h : readTokens? margin cs = some tokens) : ∀ t ∈ tokens, t.reads = [] := by
  fun_induction readTokens? margin cs generalizing tokens with
  | case1 =>
    cases h
    simp
  | case2 => cases h
  | case3 cs _ token rest hToken _ ih =>
    simp only [Option.map_eq_some_iff] at h
    obtain ⟨more, hMore, rfl⟩ := h
    obtain ⟨hReads, hSuffix⟩ := reads_readToken? hPlain hToken
    exact List.forall_mem_cons.mpr ⟨hReads, ih (fun hIn => hPlain (hSuffix.subset hIn)) hMore⟩
  | case4 => cases h

/-- A formula reads what its tokens read, and what states read anyway. -/
theorem readsOnly_of_tokens {selector : String} {f : Formula}
    (hTokens : ∀ tokens, Token.readAll? selector = some tokens → ∀ t ∈ tokens, t.reads ⊆ readNames)
    (h : Formula.read? selector = some f) : f.ReadsOnly readNames := by
  rw [Formula.read?, Option.bind_eq_bind, Option.bind_eq_some_iff] at h
  obtain ⟨tokens, hRead, h⟩ := h
  split at h
  · cases h
  · exact readsOnly_formulaOf? (List.Subset.refl _) (hTokens tokens hRead) h

/-- Brackets, backslashes and quotes are seen only where they are. -/
theorem eq_of_seenChar {c d : Char} (hd : d ∈ ['[', '\\', '"']) (h : seenChar c = d) : c = d := by
  unfold seenChar at h
  split at h
  · have hNone : Char.ofNat 0xFFFD ∉ ['[', '\\', '"'] := by decide
    exact absurd (h ▸ hd) hNone
  · exact h

/-- A selector without an opening bracket reads only what is read anyway. -/
theorem readsOnly_of_not_mem {selector : String} (hPlain : '[' ∉ selector.toList) {f : Formula}
    (h : Formula.read? selector = some f) : f.ReadsOnly readNames := by
  have hSeen : '[' ∉ skipBlanks (selector.toList.map seenChar) := by
    intro hIn
    obtain ⟨c, hc, hSame⟩ := List.mem_map.mp ((skipBlanks_suffix _).subset hIn)
    exact hPlain (eq_of_seenChar (by decide) hSame ▸ hc)
  refine readsOnly_of_tokens (fun tokens hTokens t ht => ?_) h
  rw [reads_readTokens? hSeen hTokens t ht]
  exact List.nil_subset _

/-- A selector that reads only these names ignores an unread one. -/
theorem ignores_of_readsOnly {name selector : String} (hName : Unread name)
    (h : ∀ f ∈ Formula.read? selector, f.ReadsOnly readNames) : Ignores name selector :=
  fun f hf hRead => hName (h f hf _ hRead)

/-- A selector without a bracket ignores an unread attribute. -/
theorem ignores_of_not_mem {name selector : String} (hName : Unread name)
    (hPlain : '[' ∉ selector.toList) : Ignores name selector :=
  ignores_of_readsOnly hName fun _ hf => readsOnly_of_not_mem hPlain hf

/-! ## Segments -/

theorem not_mem_positionChars (k : Nat) : '[' ∉ positionChars k := by
  unfold positionChars
  intro hIn
  rcases List.mem_append.mp hIn with hOpening | hRest
  · exact absurd hOpening (by decide)
  · rcases List.mem_append.mp hRest with hDigit | hClosing
    · have hNone : '['.isDigit ≠ true := by decide
      exact hNone (Number.isDigit_of_mem_toDigits hDigit)
    · exact absurd (List.mem_singleton.mp hClosing) (by decide)

/-- Only the tag can bring a bracket into a segment: classes are escaped. -/
theorem Segment.not_mem_chars {s : Segment} (hTag : '[' ∉ s.tag.toList) : '[' ∉ s.chars := by
  have hName : ¬(isNameChar '[' = true ∨ isHex '[' = true ∨ '[' = '\\' ∨ '[' = ' ') := by decide
  intro hIn
  rw [Segment.chars, List.mem_append, List.mem_append] at hIn
  rcases hIn with hIn | hIn | hIn
  · exact hTag hIn
  · obtain ⟨token, _, hIn⟩ := List.mem_flatMap.mp hIn
    rcases List.mem_cons.mp hIn with hDot | hIn
    · exact absurd hDot (by decide)
    · exact hName (mem_escapeName hIn)
  · cases hPosition : s.position? with
    | none =>
      rw [hPosition] at hIn
      exact List.not_mem_nil hIn
    | some k =>
      rw [hPosition] at hIn
      exact not_mem_positionChars k hIn

/-! ## Ids -/

/-- A quoted text with its escapes ends where it was closed. -/
theorem takeQuoted?_escaped {cs tail raw rest : List Char}
    (h : takeQuoted? '"' (cs.flatMap escapedQuotedChar ++ '"' :: tail) = some (raw, rest)) :
    rest = tail := by
  induction cs generalizing raw with
  | nil =>
    rw [List.flatMap_nil, List.nil_append, takeQuoted?, if_pos rfl] at h
    · cases h
      rfl
    · simp
    · simp
  | cons c cs ih =>
    rw [List.flatMap_cons, List.append_assoc] at h
    by_cases hMark : c = '\\' ∨ c = '"'
    · -- A backslash stands before the character and takes it along.
      rw [escapedQuotedChar, if_pos hMark] at h
      have hTake : takeQuoted? '"' ('\\' :: c :: (cs.flatMap escapedQuotedChar ++ '"' :: tail)) =
          (takeQuoted? '"' (cs.flatMap escapedQuotedChar ++ '"' :: tail)).map
            fun found => ('\\' :: c :: found.1, found.2) := by
        rw [takeQuoted?]
        rintro _ rfl
        simp at hMark
      rw [List.cons_append, List.cons_append, List.nil_append, hTake, Option.map_eq_some_iff] at h
      obtain ⟨found, hFound, hSame⟩ := h
      cases hSame
      exact ih hFound
    · -- Any other character is taken as it is; a line end would be refused.
      rw [escapedQuotedChar, if_neg hMark, List.singleton_append] at h
      rw [not_or] at hMark
      rw [takeQuoted?, if_neg hMark.2] at h
      · split at h
        · cases h
        · rw [Option.map_eq_some_iff] at h
          obtain ⟨found, hFound, hSame⟩ := h
          cases hSame
          exact ih hFound
      · intro _ hSlash
        exact absurd hSlash hMark.1
      · intro _ _ hSlash
        exact absurd hSlash hMark.1

/-- A selector sees an escaped text as the text it sees, escaped. -/
theorem map_seenChar_escaped (cs : List Char) :
    (cs.flatMap escapedQuotedChar).map seenChar = (cs.map seenChar).flatMap escapedQuotedChar := by
  rw [List.map_flatMap, List.flatMap_map]
  refine List.flatMap_congr fun c _ => ?_
  -- The null character is not escaped, nor is what it counts as.
  by_cases hNull : c.toNat = 0
  · have hc : c = Char.ofNat 0 := by rw [← hNull, Char.ofNat_toNat]
    subst hc
    decide
  · have hSeen : seenChar c = c := if_neg hNull
    have hSlash : seenChar '\\' = '\\' := by decide
    rw [hSeen, escapedQuotedChar]
    split
    · rw [List.map_cons, List.map_cons, List.map_nil, hSeen, hSlash]
    · rw [List.map_cons, List.map_nil, hSeen]

/-- The name is read in a test of an id. -/
theorem readAttrName?_id (body : List Char) :
    readAttrName? ('i' :: 'd' :: '=' :: body) = some (.text "id", '=' :: body) := by
  have hEnd : nameTail ('=' :: body) = ([], '=' :: body) := by
    rw [nameTail, if_neg (by decide), if_neg (by decide)]
  have hRead : readName? ('i' :: 'd' :: '=' :: body) = some (.text "id", '=' :: body) := by
    have hBegins : BeginsName ('i' :: 'd' :: '=' :: body) := (rfl : startsName _ = true)
    rw [readName?_of_beginsName hBegins, nameTail_cons (by decide), nameTail_cons (by decide), hEnd]
    rfl
  have hType : readTypeName? ('i' :: 'd' :: '=' :: body) = some (.text "id", '=' :: body) := hRead
  rw [readAttrName?, hType]
  exact hRead

/-- A quoted value ends at its closing quote, whatever it is read as. -/
theorem readValue?_escaped {cs tail rest : List Char} {value : Spelling}
    (h : readValue? ('"' :: (cs.flatMap escapedQuotedChar ++ '"' :: tail)) = some (value, rest)) :
    rest = tail := by
  rw [readValue?] at h
  simp only [Option.bind_eq_bind, Option.bind_eq_some_iff, Prod.exists] at h
  obtain ⟨_, _, hTake, _, _, hPair⟩ := h
  cases hPair
  exact takeQuoted?_escaped hTake

theorem readCaseMark?_close : readCaseMark? [']'] = some (none, []) := by
  rw [readCaseMark?, skipBlanks_cons (by simp), afterBracket?, skipBlanks_cons (by simp)]
  decide

/-- The test of an id in brackets names the id, and takes up the whole selector. -/
theorem reads_readAttribute?_id {cs rest : List Char} {t : Token}
    (h : readAttribute? ('i' :: 'd' :: '=' :: '"' :: (cs.flatMap escapedQuotedChar ++ ['"', ']'])) =
      some (t, rest)) : t.reads ⊆ readNames ∧ rest = [] := by
  generalize hBody : '"' :: (cs.flatMap escapedQuotedChar ++ ['"', ']']) = body at h
  have hBlank : skipBlanks ('=' :: body) = '=' :: body := skipBlanks_cons (by simp) body
  have hUnclosed : afterBracket? ('=' :: body) = none := by
    rw [afterBracket?, hBlank]
    rfl
  rw [readAttribute?, skipBlanks_cons (by simp), readAttrName?_id] at h
  simp only [Option.bind_eq_bind, Option.bind_some, hBlank, readComparison?, hUnclosed,
    Option.map_none, Option.orElse_eq_some, Option.bind_eq_some_iff, Prod.exists] at h
  obtain ⟨value, left, hValue, mark, after, hMark, hSame⟩ | ⟨_, hNone⟩ := h
  · rw [← hBody, skipBlanks_cons (by simp)] at hValue
    have hLeft : left = [']'] := readValue?_escaped hValue
    rw [hLeft, readCaseMark?_close] at hMark
    cases hMark
    cases hSame
    refine ⟨?_, rfl⟩
    cases value with
    | text s =>
      have hId : [Text.lowerAscii "id"] ⊆ readNames := by decide
      exact hId
    | unheld => exact List.nil_subset _
  · cases hNone

/-- A test of an id reads the id. -/
theorem reads_readTokens?_id {margin : Nat} {cs : List Char} {tokens : List Token}
    (h : readTokens? margin
      ('[' :: 'i' :: 'd' :: '=' :: '"' :: (cs.flatMap escapedQuotedChar ++ ['"', ']'])) =
        some tokens) : ∀ t ∈ tokens, t.reads ⊆ readNames := by
  have hEnd : ([] : List Char).length ≤ margin := Nat.zero_le margin
  rw [readTokens?] at h
  split at h
  · cases h
    simp
  · split at h
    · cases h
    · rename_i t rest hToken
      rw [readToken?, skipBlanks_cons (by simp)] at hToken
      obtain ⟨hReads, rfl⟩ := reads_readAttribute?_id hToken
      rw [if_pos (by simp), readTokens?, if_pos hEnd] at h
      cases h
      simpa using hReads

/-- A plain name is made of plain characters. -/
theorem plain_of_isPlainName {s : String} (h : isPlainName s = true) :
    ∀ c ∈ s.toList, isPlainChar c = true := by
  have hBody (c : Char) (rest : List Char) (h : (isPlainStart c && rest.all isPlainChar) = true) :
      ∀ d ∈ c :: rest, isPlainChar d = true := by
    rw [Bool.and_eq_true, List.all_eq_true] at h
    refine List.forall_mem_cons.mpr ⟨?_, h.2⟩
    have hStart := h.1
    simp only [isPlainStart, Bool.or_eq_true] at hStart
    simp only [isPlainChar, Char.isAlphanum, Bool.or_eq_true]
    tauto
  have hDash : isPlainChar '-' = true := by decide
  unfold isPlainName at h
  split at h
  · rename_i rest hList
    rw [hList]
    dsimp only at h
    split at h
    · cases h
    · exact List.forall_mem_cons.mpr ⟨hDash, hBody _ _ h⟩
  · dsimp only at h
    split at h
    · cases h
    · rename_i c rest hList
      rw [hList]
      exact hBody c rest h

/-- The selector of an id reads nothing but what is read anyway. -/
theorem readsOnly_ofId {id : String} {f : Formula} (h : Formula.read? (ofId id) = some f) :
    f.ReadsOnly readNames := by
  unfold ofId at h
  split at h
  · -- A plain name behind its sign has no bracket.
    rename_i hPlain
    refine readsOnly_of_not_mem ?_ h
    rw [String.toList_append, List.mem_append, not_or]
    refine ⟨by decide, fun hIn => ?_⟩
    have hAll := plain_of_isPlainName hPlain '[' hIn
    exact absurd hAll (by decide)
  · refine readsOnly_of_tokens (fun tokens hTokens => ?_) h
    have hChars : ("[id=\"" ++ escapeQuoted id ++ "\"]").toList.map seenChar =
        '[' :: 'i' :: 'd' :: '=' :: '"' ::
          ((id.toList.map seenChar).flatMap escapedQuotedChar ++ ['"', ']']) := by
      simp [escapeQuoted, ← map_seenChar_escaped, seenChar]
    rw [Token.readAll?, hChars, skipBlanks_cons (by simp)] at hTokens
    exact reads_readTokens?_id hTokens

/-- A selector by id ignores an unread attribute. -/
theorem ignores_ofId {name : String} (hName : Unread name) (id : String) :
    Ignores name (ofId id) :=
  ignores_of_readsOnly hName fun _ hf => readsOnly_ofId hf

end Selector
end StableLocator
