import StableLocator.Locator.Path
import StableLocator.Proofs.Locator.Chain
import StableLocator.Proofs.Markup.Tidy
import StableLocator.Proofs.Page.Order
import StableLocator.Proofs.Selector.Segments
import StableLocator.Proofs.Text.Blank

/-!
# Structural paths select their elements

The path of an element is the writing of a chain of segments, each of which holds at the element that
it was made for. So the element is among those that the path selects, as long as the path is not too
large for a selector.

* `positionIn_children` — a position in a path counts as a selector does;
* `asSegment` and `pathSegments` — segments and paths before they are written;
* `holds_asSegment` — the segment of an element holds at it;
* `matchesUp_pathSegments` — the path holds along the way up from its element;
* `mem_select?_structuralPath` — the structural path selects the element.
-/

namespace StableLocator

open Selector (Segment)

/-! ## Stable classes -/

theorem mem_cleanTokens {tokens : List String} {clean : String} (h : clean ∈ cleanTokens tokens) :
    ∃ token ∈ tokens, clean = Text.trim token := by
  -- For all that may be kept already, as it changes from token to token.
  have hFold : ∀ (tokens kept : List String),
      clean ∈ tokens.foldl (fun kept token =>
        let clean := Text.trim token
        if clean = "" ∨ clean ∈ kept then kept else kept ++ [clean]) kept →
      clean ∈ kept ∨ ∃ token ∈ tokens, clean = Text.trim token := by
    intro tokens
    induction tokens with
    | nil => exact fun kept h => .inl h
    | cons token tokens ih =>
      intro kept h
      rcases ih _ h with h | ⟨token', hToken', hClean⟩
      · dsimp only at h
        split at h
        · exact .inl h
        · rcases List.mem_append.1 h with h | h
          · exact .inl h
          · exact .inr ⟨token, List.mem_cons_self, List.mem_singleton.1 h⟩
      · exact .inr ⟨token', List.mem_cons_of_mem _ hToken', hClean⟩
  rcases hFold tokens [] h with h | h
  · exact absurd h List.not_mem_nil
  · exact h

namespace Text

/-- A word has no white space to trim. -/
theorem trim_of_isWord {s : String} (h : IsWord s.toList) : trim s = s := by
  obtain ⟨_, hInk⟩ := h
  refine trim_eq_self ?_ ?_
  · rw [Option.all_eq_true]
    intro c hc
    rw [hInk c (List.mem_of_mem_head? hc)]
    rfl
  · rw [Option.all_eq_true]
    intro c hc
    rw [hInk c (List.mem_of_mem_getLast? hc)]
    rfl

end Text

namespace Spot

variable {s t p : Spot}

/-- A stable class of a tidy element is one of its classes, and longer than two characters. -/
theorem mem_classTokens_of_stable (hTidy : s.attrs.Tidy) {token : String}
    (h : token ∈ s.stableClasses) : token ∈ s.classTokens ∧ 2 < token.length := by
  rw [stableClasses, stableTokens, List.mem_filter] at h
  obtain ⟨hClean, hStable⟩ := h
  obtain ⟨raw, hRaw, hTrim⟩ := mem_cleanTokens hClean
  -- Classes that were split at white space have none to trim.
  have hSame : token = raw := by
    rw [hTrim, Text.trim_of_isWord (isWord_of_mem_classTokens hTidy hRaw)]
  subst hSame
  simp only [isStableToken, ← hTrim, Bool.and_eq_true, decide_eq_true_eq] at hStable
  exact ⟨hRaw, hStable.1.1⟩

/-! ## Positions -/

/-- The siblings before an element are other elements. -/
theorem same_eq_false_of_mem_earlier (hp : s.parent? = some p) (ht : t ∈ s.earlier) :
    t.same s = false := by
  -- The children of the parent come in document order, so none of them stands there twice.
  have hRow := rowSpots_pairwise p.tag p.attrs p.context [] p.nodes
  have hChildren : p.children = s.earlier.reverse ++ s :: s.later := children_of_parent? hp
  rw [children] at hChildren
  rw [hChildren, List.pairwise_append] at hRow
  obtain ⟨_, _, hBefore⟩ := hRow
  have hLess : t.Before s := hBefore t (List.mem_reverse.2 ht) s List.mem_cons_self
    t List.mem_cons_self s List.mem_cons_self
  rw [same, beq_eq_false_iff_ne]
  intro hPlace
  rw [Before, hPlace] at hLess
  exact Place.Before.irrefl _ hLess

/-- The position counts the elements of the tag up to the element itself. -/
theorem positionIn_append {before : List Spot} (after : List Spot) (hTag : s.tagSelector = s.name)
    (hBefore : ∀ t ∈ before, t.same s = false) :
    s.positionIn (before ++ s :: after) = (before.filter fun t => t.name == s.name).length + 1 := by
  induction before with
  | nil =>
    have hSame : s.same s = true := beq_self_eq_true s.place
    simp [positionIn, hSame, hTag]
  | cons t before ih =>
    have hRest := ih fun u hu => hBefore u (List.mem_cons_of_mem _ hu)
    rw [List.cons_append, positionIn, hBefore t List.mem_cons_self, hRest, hTag]
    by_cases hName : t.name = s.name
    · simp [hName]
      omega
    · simp [hName]

/-- A position counts the element among the siblings of its type. -/
theorem positionIn_children (hp : s.parent? = some p) (hTag : s.tagSelector = s.name) :
    s.positionIn p.children = (Selector.counted false true s).length + 1 := by
  have hEarlier : ∀ t ∈ s.earlier.reverse, t.same s = false := fun t ht =>
    same_eq_false_of_mem_earlier hp (List.mem_reverse.1 ht)
  rw [children_of_parent? hp, positionIn_append s.later hTag hEarlier, List.filter_reverse,
    List.length_reverse]
  simp [Selector.counted]

/-! ## Segments -/

/-- The tag of an element is a plain name, and its classes have no null character. -/
structure Plain (s : Spot) : Prop where
  tag : Selector.IsPlainTag s.name
  classes : ∀ token ∈ s.classTokens, ∀ c ∈ token.toList, c.toNat ≠ 0

instance (s : Spot) : Decidable s.Plain :=
  decidable_of_iff (Selector.IsPlainTag s.name ∧
      (s.classTokens.all fun token => token.toList.all fun c => c.toNat != 0) = true)
    ⟨fun h => ⟨h.1, by simpa using h.2⟩, fun h => ⟨h.tag, by simpa using h.classes⟩⟩

/-- A tag with characters is its own selector. -/
theorem tagSelector_eq {c : Char} {more : List Char} (h : s.name.toList = c :: more) :
    s.tagSelector = s.name := by
  rw [tagSelector, if_neg]
  intro hEmpty
  rw [hEmpty] at h
  cases h

/-- The tag of a plain element is its own selector. -/
theorem Plain.tagSelector_eq (h : s.Plain) : s.tagSelector = s.name := by
  obtain ⟨c, more, hChars, _⟩ := h.tag
  exact Spot.tagSelector_eq hChars

def asSegment (s : Spot) : Segment where
  tag := s.tagSelector
  classes := s.stableClasses
  position? := s.parentElement?.bind fun container =>
    if container.children.countP (fun t => t.signature = s.signature) < 2 then none
    else some (s.positionIn container.children)

theorem toList_signatureSelector (s : Spot) :
    s.signatureSelector.toList = s.tagSelector.toList ++ Segment.classChars s.stableClasses := by
  rw [signatureSelector, String.toList_append, String.toList_join, List.flatMap_map]
  simp [Segment.classChars]

/-- A number between two texts behind another text. -/
theorem toList_append_repr (s opening closing : String) (k : Nat) :
    (s ++ opening ++ Nat.repr k ++ closing).toList =
      s.toList ++ (opening.toList ++ (Nat.toDigits 10 k ++ closing.toList)) := by
  simp

/-- A segment is written as its parts are. -/
theorem toList_segment (s : Spot) : s.segment.toList = s.asSegment.chars := by
  have hAlone : s.signatureSelector.toList =
      s.tagSelector.toList ++ (Segment.classChars s.stableClasses ++ []) := by
    rw [List.append_nil, toList_signatureSelector]
  unfold segment
  cases hParent : s.parentElement? with
  | none => simp only [asSegment, Segment.chars, hParent, hAlone, Option.bind_none, Option.elim_none]
  | some container =>
    simp only [segmentIn, asSegment, Segment.chars, hParent, Option.bind_some]
    split
    · exact hAlone
    · rw [toList_append_repr, toList_signatureSelector, List.append_assoc]
      rfl

/-- Neither the empty text nor a dash is long enough to be stable. -/
theorem ne_of_mem_stableClasses (hTidy : s.attrs.Tidy) {token : String}
    (h : token ∈ s.stableClasses) : token ≠ "" ∧ token ≠ "-" := by
  have hLong := (mem_classTokens_of_stable hTidy h).2
  constructor
  · rintro rfl
    exact absurd hLong (by decide)
  · rintro rfl
    exact absurd hLong (by decide)

/-- The tag and the classes of an element are read back from its segment. -/
theorem writable_asSegment (hTidy : s.attrs.Tidy) (h : s.Plain) : s.asSegment.Writable where
  tag := by
    have hTag : s.asSegment.tag = s.name := h.tagSelector_eq
    rw [hTag]
    exact h.tag
  classes := fun token hToken =>
    ⟨h.classes token (mem_classTokens_of_stable hTidy hToken).1,
      ne_of_mem_stableClasses hTidy hToken⟩

/-- The segment of an element holds at it, as a selector sees it, just where the element has its stable
classes as a selector sees them. -/
theorem holds_seen_asSegment_iff (hTidy : s.attrs.Tidy) (hTag : s.tagSelector = s.name) :
    s.asSegment.seen.holds s ↔ ∀ token ∈ s.stableClasses, Selector.seenText token ∈ s.classTokens := by
  have hName : Text.lowerAscii s.asSegment.seen.tag = s.name := by
    have hSame : s.asSegment.seen.tag = s.name := hTag
    rw [hSame]
    exact Text.lowerAscii_eq_self (Text.noCapitals_lower s.tag)
  have hPosition : ∀ k ∈ s.asSegment.seen.position?,
      (Selector.counted false true s).length + 1 = k := by
    intro k hk
    have hk : k ∈ s.asSegment.position? := hk
    rw [asSegment, Option.mem_def, Option.bind_eq_some_iff] at hk
    obtain ⟨container, hContainer, hk⟩ := hk
    have hParent : s.parent? = some container := parent?_of_parentElement? hContainer
    split at hk
    · cases hk
    · injection hk with hk
      rw [← hk, positionIn_children hParent hTag]
  have hClasses : s.asSegment.seen.classes = s.stableClasses.map Selector.seenText := rfl
  rw [Segment.holds, Selector.classTokens_of_tidy hTidy, hClasses, List.forall_mem_map]
  exact ⟨fun h => h.2.1, fun h => ⟨hName, h, hPosition⟩⟩

/-- The segment of an element holds at it. -/
theorem holds_asSegment (hTidy : s.attrs.Tidy) (h : s.Plain) : s.asSegment.holds s := by
  rw [← (writable_asSegment hTidy h).seen_eq, holds_seen_asSegment_iff hTidy h.tagSelector_eq]
  intro token hToken
  have hMem := (mem_classTokens_of_stable hTidy hToken).1
  rwa [Selector.seenText_eq_self (h.classes token hMem)]

/-! ## Paths -/

/-- The segment of an element whose tag alone is asked for. -/
def tagSegment (tag : String) : Segment := ⟨tag, [], none⟩

/-- The segments of an element and of those around it below the page frame, outermost first, and
`body` before them where that is the frame. -/
def pathSegments (s : Spot) : List Segment :=
  match s.lineage with
  | [] => [tagSegment s.tagSelector]
  | steps =>
    (if s.frame?.any (fun f => f.name == "body") then [tagSegment "body"] else []) ++
      steps.map asSegment

theorem chars_tagSegment (tag : String) : (tagSegment tag).chars = tag.toList := by
  simp [tagSegment, Segment.chars, Segment.classChars]

theorem intercalate_chars (segments : List Segment) :
    " > ".toList.intercalate (segments.map Segment.chars) = Selector.chainChars segments := by
  induction segments with
  | nil => rfl
  | cons first segments ih =>
    cases segments with
    | nil => simp [Selector.chainChars]
    | cons next segments =>
      rw [List.map_cons, List.map_cons, List.intercalate_cons_cons, ← List.map_cons, ih,
        Selector.chainChars, List.append_assoc]
      rfl

/-- The path of an element is its segments, written. -/
theorem framePath_eq (s : Spot) :
    s.framePath = String.ofList (Selector.chainChars s.pathSegments) := by
  apply String.toList_inj.1
  rw [String.toList_ofList, framePath, pathSegments]
  cases s.lineage with
  | nil => exact (chars_tagSegment _).symm
  | cons first steps =>
    dsimp only
    rw [String.toList_intercalate, ← intercalate_chars, List.map_append, List.map_append,
      List.map_map, List.map_map]
    congr 2
    · split
      · exact congrArg (· :: []) (chars_tagSegment "body").symm
      · rfl
    · exact List.map_congr_left fun t _ => toList_segment t

/-! ## The way up -/

def frameSegments (s : Spot) : List Segment :=
  if s.frame?.any (fun f => f.name == "body") then [tagSegment "body"] else []

def segmentsUp (s : Spot) : List Segment :=
  ((s :: s.ancestors).takeWhile fun a => !a.isPageFrame).map asSegment ++ s.frameSegments

/-- Off the page frame, the segments of a path are those on the way up, in reverse. -/
theorem reverse_pathSegments (h : s.isPageFrame = false) :
    s.pathSegments.reverse = s.segmentsUp := by
  rw [pathSegments, segmentsUp, frameSegments]
  cases hLineage : s.lineage with
  | nil => simp [lineage, h] at hLineage
  | cons first steps =>
    have hSteps : (s :: s.ancestors).takeWhile (fun a => !a.isPageFrame) =
        (first :: steps).reverse := by
      rw [← hLineage, lineage, List.reverse_reverse]
    rw [hSteps, List.reverse_append, List.map_reverse]
    split
    · rfl
    · rfl

theorem holds_tagSegment {tag : String} (h : tag = s.name) : (tagSegment tag).holds s := by
  refine ⟨?_, fun _ hToken => absurd hToken List.not_mem_nil, fun _ hk => by cases hk⟩
  rw [tagSegment, h]
  exact Text.lowerAscii_eq_self (Text.noCapitals_lower s.tag)

/-- The lineage of an element consists of the element and of those around it. -/
theorem mem_of_mem_lineage (h : t ∈ s.lineage) : t ∈ s :: s.ancestors :=
  (List.takeWhile_sublist _).subset (List.mem_reverse.1 h)

theorem mem_elements_of_mem_lineage {page : Page} (hs : s ∈ page.elements) (h : t ∈ s.lineage) :
    t ∈ page.elements := by
  rcases List.mem_cons.1 (mem_of_mem_lineage h) with rfl | hAround
  · exact hs
  · exact Page.mem_elements_of_mem_ancestors hs hAround

theorem mem_lineage_self (h : s.isPageFrame = false) : s ∈ s.lineage := by
  rw [lineage, List.takeWhile_cons_of_pos (by simp [h])]
  simp

/-- A page frame has no lineage. -/
theorem lineage_of_isPageFrame (h : s.isPageFrame = true) : s.lineage = [] := by
  simp [lineage, h]

/-- An element adds itself to the lineage of its parent. -/
theorem lineage_of_parentElement? (h : s.isPageFrame = false) (hp : s.parentElement? = some p) :
    s.lineage = p.lineage ++ [s] := by
  rw [lineage, ancestors_of_parentElement? hp, List.takeWhile_cons_of_pos (by simp [h]),
    List.reverse_cons, lineage]

/-- An element has the page frame of its parent. -/
theorem frame?_of_parentElement? (h : s.isPageFrame = false) (hp : s.parentElement? = some p) :
    s.frame? = p.frame? := by
  simp [frame?, h, ancestors_of_parentElement? hp]

/-- Below the page frame, segments hold along the way up from the element just where each holds at the
element that it was made for, whatever of them a selector sees. -/
theorem matchesUp_map_segmentsUp {change : Segment → Segment}
    (hBody : change (tagSegment "body") = tagSegment "body") (hInside : s.isPageFrame = false) :
    Selector.matchesUp (s.segmentsUp.map change) s ↔
      ∀ a ∈ s.lineage, (change a.asSegment).holds a := by
  -- The induction follows the elements around, of which the first is the parent.
  induction hUp : s.ancestors generalizing s with
  | nil =>
    have hAlone : s.segmentsUp = [s.asSegment] := by
      simp [segmentsUp, frameSegments, frame?, hUp, hInside]
    have hLineage : s.lineage = [s] := by simp [lineage, hUp, hInside]
    rw [hAlone, hLineage, List.forall_mem_singleton]
    exact Iff.rfl
  | cons p outer ih =>
    obtain ⟨hParent, hOuter⟩ : s.parentElement? = some p ∧ p.ancestors = outer := by
      cases hElement : s.parentElement? with
      | none =>
        rw [ancestors_of_parentElement?_eq_none hElement] at hUp
        cases hUp
      | some q =>
        rw [ancestors_of_parentElement? hElement] at hUp
        injection hUp with hHead hTail
        rw [hHead] at hTail ⊢
        exact ⟨rfl, hTail⟩
    have hFrame : s.frame? = p.frame? := frame?_of_parentElement? hInside hParent
    rw [lineage_of_parentElement? hInside hParent, List.forall_mem_append, List.forall_mem_singleton,
      and_comm]
    -- The path ends at the page frame, which is written only if it is the body.
    cases hPage : p.isPageFrame with
    | true =>
      have hStep : s.segmentsUp =
          s.asSegment :: if p.name = "body" then [tagSegment "body"] else [] := by
        simp [segmentsUp, frameSegments, frame?, hPage, hInside,
          ancestors_of_parentElement? hParent]
      rw [hStep, List.map_cons, Selector.matchesUp_cons, lineage_of_isPageFrame hPage]
      refine and_congr_right fun _ => iff_of_true ?_ fun _ hNone => absurd hNone List.not_mem_nil
      split
      · rename_i hName
        rw [List.map_singleton, hBody]
        exact .inr ⟨p, parent?_of_parentElement? hParent, holds_tagSegment hName.symm⟩
      · exact .inl rfl
    | false =>
      have hStep : s.segmentsUp = s.asSegment :: p.segmentsUp := by
        rw [segmentsUp, segmentsUp, frameSegments, frameSegments, hFrame,
          ancestors_of_parentElement? hParent]
        simp [hInside]
      have hSome : p.segmentsUp ≠ [] := by simp [segmentsUp, hPage]
      rw [hStep, List.map_cons, Selector.matchesUp_cons, ← ih hPage hOuter]
      simp [hSome, parent?_of_parentElement? hParent]

/-- The path of an element holds along the way up from it. -/
theorem matchesUp_pathSegments (h : ∀ a ∈ s :: s.ancestors, a.attrs.Tidy ∧ a.Plain) :
    Selector.matchesUp s.pathSegments.reverse s := by
  -- A page frame has its tag alone as its path; every other element has a chain of segments.
  cases hFrame : s.isPageFrame with
  | true =>
    have hAlone : s.pathSegments = [tagSegment s.tagSelector] := by
      simp [pathSegments, lineage, hFrame]
    rw [hAlone]
    exact holds_tagSegment (h s List.mem_cons_self).2.tagSelector_eq
  | false =>
    rw [reverse_pathSegments hFrame, ← List.map_id' s.segmentsUp, matchesUp_map_segmentsUp rfl hFrame]
    intro a ha
    obtain ⟨hTidy, hPlain⟩ := h a (mem_of_mem_lineage ha)
    exact holds_asSegment hTidy hPlain

theorem writable_tagSegment {tag : String} (h : Selector.IsPlainTag tag) :
    (tagSegment tag).Writable where
  tag := h
  classes := fun _ hToken => absurd hToken List.not_mem_nil

/-- The element and its lineage are among the element and those around it. -/
theorem mem_of_mem_cons_lineage (h : t ∈ s :: s.lineage) : t ∈ s :: s.ancestors := by
  rcases List.mem_cons.1 h with rfl | h
  · exact List.mem_cons_self
  · exact mem_of_mem_lineage h

/-! ## Sizes -/

/-- A selector can hold the path of the element: it makes no more tests than a selector may, and no
position in it has more digits than a number may. -/
structure PathFits (s : Spot) : Prop where
  tests : Selector.chainSize s.pathSegments ≤ Selector.sizeLimit
  positions : ∀ segment ∈ s.pathSegments, ∀ k ∈ segment.position?,
    (Nat.toDigits 10 k).length ≤ Number.digitLimit

instance (s : Spot) : Decidable s.PathFits :=
  decidable_of_iff (Selector.chainSize s.pathSegments ≤ Selector.sizeLimit ∧
      (s.pathSegments.all fun segment => segment.position?.all fun k =>
        (Nat.toDigits 10 k).length ≤ Number.digitLimit) = true)
    ⟨fun h => ⟨h.1, by simpa [Option.all_eq_true] using h.2⟩,
      fun h => ⟨h.tests, by simpa [Option.all_eq_true] using h.positions⟩⟩

/-- The path of plain elements can be written and read back. -/
theorem writable_pathSegments (h : ∀ a ∈ s :: s.lineage, a.attrs.Tidy ∧ a.Plain) :
    ∀ segment ∈ s.pathSegments, segment.Writable := by
  intro segment hSegment
  unfold pathSegments at hSegment
  split at hSegment
  · have hSelf := (h s List.mem_cons_self).2
    rw [List.mem_singleton.1 hSegment, hSelf.tagSelector_eq]
    exact writable_tagSegment hSelf.tag
  · rcases List.mem_append.1 hSegment with hFrame | hStep
    · split at hFrame
      · rw [List.mem_singleton.1 hFrame]
        exact writable_tagSegment (by decide)
      · exact absurd hFrame List.not_mem_nil
    · obtain ⟨a, ha, rfl⟩ := List.mem_map.1 hStep
      obtain ⟨hTidy, hPlain⟩ := h a (List.mem_cons_of_mem _ ha)
      exact writable_asSegment hTidy hPlain

theorem pathSegments_ne_nil (s : Spot) : s.pathSegments ≠ [] := by
  unfold pathSegments
  split
  · exact List.cons_ne_nil _ _
  · rename_i hSome
    intro hNone
    exact hSome (List.map_eq_nil_iff.1 (List.append_eq_nil_iff.1 hNone).2)

/-- The path of an element of a page selects it, if a selector can hold the path. -/
theorem mem_select?_framePath {page : Page} (hs : s ∈ page.elements)
    (h : ∀ a ∈ s :: s.ancestors, a.attrs.Tidy ∧ a.Plain) (hFits : s.PathFits) :
    ∃ found, page.root.select? s.framePath = some found ∧ s ∈ found := by
  have hWritable := writable_pathSegments fun a ha => h a (mem_of_mem_cons_lineage ha)
  obtain ⟨found, hFound, hMem⟩ :=
    (Selector.select?_chain s.pathSegments_ne_nil hWritable page.root).2 hFits.tests hFits.positions
  refine ⟨found, ?_, (hMem s).2 ⟨hs, matchesUp_pathSegments h⟩⟩
  rw [framePath_eq, hFound]

/-- A path that no selector can hold selects nothing. -/
theorem select?_framePath_eq_none {root : Spot}
    (h : ∀ a ∈ s :: s.lineage, a.attrs.Tidy ∧ a.Plain) (hLarge : ¬s.PathFits) :
    root.select? s.framePath = none := by
  rw [framePath_eq]
  exact (Selector.select?_chain s.pathSegments_ne_nil (writable_pathSegments h) root).1
    fun hFits => hLarge ⟨hFits.1, hFits.2⟩

/-- A unique id was seen to select one element, at the place of this one. -/
theorem uniqueId?_eq_some {root : Spot} {selector : String} (h : s.uniqueId? root = some selector) :
    selector = Selector.ofId (s.attrText "id") ∧
      ∃ found, root.select? selector = some [found] ∧ found.same s = true := by
  simp only [uniqueId?] at h
  split at h
  · cases h
  · split at h
    · rename_i found hSelect
      split at h
      · rename_i hSame
        injection h with h
        exact ⟨h.symm, found, h ▸ hSelect, hSame⟩
      · cases h
    · cases h

/-- The selector of a unique id selects the element, and no other. -/
theorem select?_uniqueId {page : Page} (hs : s ∈ page.elements) {selector : String}
    (h : s.uniqueId? page.root = some selector) : page.root.select? selector = some [s] := by
  obtain ⟨_, found, hSelect, hSame⟩ := uniqueId?_eq_some h
  have hFound : found ∈ page.root.descendants :=
    (select?_sublist hSelect).subset List.mem_cons_self
  rw [same_iff hFound hs] at hSame
  rw [hSelect, hSame]

/-- The structural path of an element selects it: by its id, or if a selector can hold its path. -/
theorem mem_select?_structuralPath {page : Page} (hs : s ∈ page.elements)
    (h : ∀ a ∈ s :: s.ancestors, a.attrs.Tidy ∧ a.Plain)
    (hFits : s.uniqueId? page.root = none → s.PathFits) :
    ∃ found, page.root.select? (s.structuralPath page.root) = some found ∧ s ∈ found := by
  unfold structuralPath
  cases hId : s.uniqueId? page.root with
  | none => exact mem_select?_framePath hs h (hFits hId)
  | some selector => exact ⟨[s], select?_uniqueId hs hId, List.mem_cons_self⟩

/-- The tag of an element selects it. -/
theorem mem_select?_tagSelector {page : Page} (hs : s ∈ page.elements)
    (h : Selector.IsPlainTag s.name) :
    ∃ found, page.root.select? s.tagSelector = some found ∧ s ∈ found := by
  -- The tag is a chain of one segment without classes and position.
  have hWritable : ∀ segment ∈ [tagSegment s.name], segment.Writable := by
    intro segment hSegment
    rw [List.mem_singleton.1 hSegment]
    exact writable_tagSegment h
  have hShort : ∀ segment ∈ [tagSegment s.name], segment.HasShortPosition := by
    simp [Segment.HasShortPosition, tagSegment]
  have hSize : Selector.chainSize [tagSegment s.name] ≤ Selector.sizeLimit := by
    simp [Selector.chainSize, tagSegment, Segment.size, Selector.sizeLimit]
  obtain ⟨found, hFound, hMem⟩ :=
    (Selector.select?_chain (List.cons_ne_nil _ _) hWritable page.root).2 hSize hShort
  refine ⟨found, ?_, (hMem s).2 ⟨hs, holds_tagSegment rfl⟩⟩
  rw [Selector.chainChars, chars_tagSegment, String.ofList_toList] at hFound
  obtain ⟨c, more, hChars, _⟩ := h
  rw [tagSelector_eq hChars, hFound]

end Spot
end StableLocator
