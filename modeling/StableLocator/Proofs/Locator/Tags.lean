import StableLocator.Proofs.Locator.Denotation
import StableLocator.Proofs.Selector.Stray

/-!
# Tags in structural paths

A path writes classes and ids so that they are read back, but tags as they stand. A tag of markup may
have any characters but blanks and the signs that end it. An element whose tag, or that of an element
around it below the page frame, has a character that goes on no name is not among what its path selects,
if the path can be read at all. Only signs that lead out of a segment are left aside here: `a,*` selects
every element.

* `forall_mem_pathSegments` — what the segments of a path are made for;
* `select?_framePath_of_bare` — what a path of bare tags selects of its own levels;
* `isBareName_of_mem_framePath` — an element that its path selects has bare tags at each level;
* `mem_select?_structuralPath_iff` — the elements that their structural paths select;
* `select?_structuralPath_strayTags` — paths with stray characters, of which one cannot be read.
-/

namespace StableLocator

open Selector (Segment)

namespace Spot

variable {page : Page} {s : Spot}

/-! ## The segments of a path -/

/-- The segments of a path are made for the lineage, apart from that of the body. -/
theorem forall_mem_pathSegments {p : Segment → Prop} (hFrame : s.isPageFrame = false)
    (hBody : p (tagSegment "body")) (h : ∀ a ∈ s.lineage, p a.asSegment) :
    ∀ segment ∈ s.pathSegments, p segment := by
  intro segment hSegment
  rw [← List.mem_reverse, reverse_pathSegments hFrame, segmentsUp, List.mem_append] at hSegment
  rcases hSegment with hStep | hOuter
  · obtain ⟨a, ha, rfl⟩ := List.mem_map.mp hStep
    exact h a (List.mem_reverse.mpr ha)
  · rw [frameSegments] at hOuter
    split at hOuter
    · rwa [List.mem_singleton.mp hOuter]
    · exact absurd hOuter List.not_mem_nil

/-- A changed path holds at its element just if each changed level holds at its own. -/
theorem matchesUp_map_pathSegments {change : Segment → Segment}
    (hBody : change (tagSegment "body") = tagSegment "body") (hFrame : s.isPageFrame = false) :
    Selector.matchesUp (s.pathSegments.map change).reverse s ↔
      ∀ a ∈ s.lineage, (change a.asSegment).holds a := by
  rw [← List.map_reverse, reverse_pathSegments hFrame, matchesUp_map_segmentsUp hBody hFrame]

/-! ## Bare tags -/

/-- The segment of an element with a bare tag is legible. -/
theorem legible_asSegment (hTidy : s.attrs.Tidy) (hTag : Selector.IsBareName s.name) :
    s.asSegment.Legible where
  tag := by
    obtain ⟨c, more, hChars, _⟩ := id hTag
    have hSame : s.asSegment.tag = s.name := tagSelector_eq hChars
    rw [hSame]
    exact hTag
  classes := fun _ hToken => ne_of_mem_stableClasses hTidy hToken

/-- A path of bare tags can be read unless it is too large for a selector, and selects its element just
where each level has its stable classes as a selector sees them. -/
theorem select?_framePath_of_bare (hTidy : page.Tidy) (hs : s ∈ page.elements)
    (hFrame : s.isPageFrame = false) (hTags : ∀ a ∈ s.lineage, Selector.IsBareName a.name) :
    (¬s.PathFits → page.root.select? s.framePath = none) ∧
    (s.PathFits → ∃ found, page.root.select? s.framePath = some found ∧
      (s ∈ found ↔
        ∀ a ∈ s.lineage, ∀ token ∈ a.stableClasses, Selector.seenText token ∈ a.classTokens)) := by
  have hAround : ∀ a ∈ s.lineage, a.attrs.Tidy := fun a ha =>
    hTidy a (mem_elements_of_mem_lineage hs ha)
  have hLegible : ∀ segment ∈ s.pathSegments, segment.Legible :=
    forall_mem_pathSegments hFrame (writable_tagSegment (by decide)).legible fun a ha =>
      legible_asSegment (hAround a ha) (hTags a ha)
  obtain ⟨hLarge, hSmall⟩ :=
    Selector.select?_chain_seen s.pathSegments_ne_nil hLegible page.root
  rw [framePath_eq]
  refine ⟨fun hNot => hLarge fun hFits => hNot ⟨hFits.1, hFits.2⟩, fun hFits => ?_⟩
  obtain ⟨found, hFound, hMem⟩ := hSmall hFits.tests hFits.positions
  refine ⟨found, hFound, ?_⟩
  have hElement : s ∈ page.root.descendants := hs
  rw [hMem, and_iff_right hElement, matchesUp_map_pathSegments (by rfl) hFrame]
  refine forall₂_congr fun a ha => ?_
  obtain ⟨c, more, hChars, _⟩ := hTags a ha
  exact holds_seen_asSegment_iff (hAround a ha) (tagSelector_eq hChars)

/-! ## Stray characters -/

/-- The tag has none of the signs that lead out of a segment. -/
def KeepsSegment (s : Spot) : Prop := ∀ c ∈ s.name.toList, c ∉ Selector.joiningSigns

instance (s : Spot) : Decidable s.KeepsSegment :=
  List.decidableBAll (fun c => c ∉ Selector.joiningSigns) s.name.toList

/-- The segment of an element whose tag keeps it is contained. -/
theorem contained_asSegment (hTidy : s.attrs.Tidy) (hTag : Markup.IsTagName s.name)
    (hSigns : s.KeepsSegment) : s.asSegment.Contained where
  begins := by
    obtain ⟨c, more, hChars, hFirst⟩ := hTag.begins
    have hSame : s.asSegment.tag = s.name := tagSelector_eq hChars
    rw [Segment.Begins, hSame]
    exact ⟨c, more, hChars, hFirst⟩
  inner := by
    obtain ⟨c, more, hChars, _⟩ := hTag.begins
    have hSame : s.asSegment.tag = s.name := tagSelector_eq hChars
    rw [hSame]
    intro d hd
    have hChar := hTag.chars d hd
    simp only [Markup.isTagChar, Text.isMarkupBlank, Bool.not_eq_true', Bool.or_eq_false_iff,
      beq_eq_false_iff_ne] at hChar
    refine ⟨?_, hChar.2⟩
    simp [hSigns d hd, hChar]
  classes := fun _ hToken => ne_of_mem_stableClasses hTidy hToken

/-- An element that its path selects has bare tags at each level. -/
theorem isBareName_of_mem_framePath (hTidy : page.Tidy)
    (hNames : ∀ a ∈ page.elements, Markup.IsTagName a.name) (hs : s ∈ page.elements)
    (hFrame : s.isPageFrame = false) (hSigns : ∀ a ∈ s.lineage, a.KeepsSegment)
    {found : List Spot} (hSelect : page.root.select? s.framePath = some found) (hMem : s ∈ found) :
    ∀ a ∈ s.lineage, Selector.IsBareName a.name := by
  have hElement : ∀ a ∈ s.lineage, a ∈ page.elements := fun a ha =>
    mem_elements_of_mem_lineage hs ha
  have hContained : ∀ segment ∈ s.pathSegments, segment.Contained := by
    refine forall_mem_pathSegments hFrame ⟨⟨'b', _, rfl, rfl⟩, ?_, ?_⟩ fun a ha => ?_
    · simp [tagSegment, Selector.IsInner, Selector.joiningSigns]
    · exact fun _ hToken => absurd hToken List.not_mem_nil
    · exact contained_asSegment (hTidy a (hElement a ha)) (hNames a (hElement a ha)) (hSigns a ha)
  rw [framePath_eq] at hSelect
  have hUp := Selector.matchesUp_bare_of_mem s.pathSegments_ne_nil hContained hSelect hMem
  rw [matchesUp_map_pathSegments (by decide) hFrame] at hUp
  intro a ha
  have hName := Selector.Segment.holds_bare.mp (hUp a ha)
  obtain ⟨c, more, hChars, hFirst⟩ := (hNames a (hElement a ha)).begins
  have hTag : a.asSegment.tag = a.name := tagSelector_eq hChars
  have hBegins : a.asSegment.Begins := ⟨c, more, hTag ▸ hChars, hFirst⟩
  have hBare := hBegins.isBareName
  rw [hTag] at hName hBare
  -- What is selected has the name that the tag begins with, and the element has the tag itself.
  have hLower : Text.NoCapitals (Selector.bareTag a.name) := fun d hd =>
    Text.noCapitals_lower a.tag d (Selector.mem_of_mem_bareTag hd)
  rwa [← hName, Text.lowerAscii_eq_self hLower]

/-! ## Page frames -/

/-- The path of a page frame is its tag. -/
theorem framePath_of_isPageFrame (hFrame : s.isPageFrame = true) : s.framePath = s.tagSelector := by
  rw [framePath, lineage_of_isPageFrame hFrame]

/-- The path of a page frame fits into a selector. -/
theorem pathFits_of_isPageFrame (hFrame : s.isPageFrame = true) : s.PathFits := by
  have hAlone : s.pathSegments = [tagSegment s.tagSelector] := by
    rw [pathSegments, lineage_of_isPageFrame hFrame]
  constructor
  · rw [hAlone]
    simp [Selector.chainSize, tagSegment, Segment.size, Selector.sizeLimit]
  · rw [hAlone]
    simp [tagSegment]

theorem isPlainTag_of_isPageFrame (hFrame : s.isPageFrame = true) : Selector.IsPlainTag s.name := by
  rw [isPageFrame, Bool.or_eq_true, beq_iff_eq, beq_iff_eq] at hFrame
  rcases hFrame with hName | hName
  · rw [hName]
    decide
  · rw [hName]
    decide

end Spot

/-! ## Elements and their paths -/

/-- The structural path of an element selects it just where it is the selector of a unique id, or where
a selector can hold the path, the tag at each level is a bare name and the element at that level has its
stable classes as a selector sees them. A path of bare tags can be read just where a selector can hold
it. -/
theorem mem_select?_structuralPath_iff {markup url : String} {page : Page}
    (hPage : Page.read markup url = .ok page) {s : Spot} (hs : s ∈ page.elements)
    (hSigns : s.uniqueId? page.root = none → ∀ a ∈ s.lineage, a.KeepsSegment) :
    ((∃ found, page.root.select? (s.structuralPath page.root) = some found ∧ s ∈ found) ↔
      (s.uniqueId? page.root).isSome ∨ s.PathFits ∧ ∀ a ∈ s.lineage, Selector.IsBareName a.name ∧
        ∀ token ∈ a.stableClasses, Selector.seenText token ∈ a.classTokens) ∧
    ((∀ a ∈ s.lineage, Selector.IsBareName a.name) →
      ((page.root.select? (s.structuralPath page.root)).isSome ↔
        (s.uniqueId? page.root).isSome ∨ s.PathFits)) := by
  have hTidy := Page.tidy_of_read hPage
  rw [Spot.structuralPath]
  cases hId : s.uniqueId? page.root with
  | some selector =>
    rw [Option.getD_some]
    simp [Spot.select?_uniqueId hs hId]
  | none =>
    rw [Option.getD_none]
    simp only [Option.isSome_none, Bool.false_eq_true, false_or]
    cases hFrame : s.isPageFrame with
    | true =>
      obtain ⟨found, hFound, hMem⟩ :=
        Spot.mem_select?_tagSelector hs (Spot.isPlainTag_of_isPageFrame hFrame)
      have hFits := Spot.pathFits_of_isPageFrame hFrame
      simp [Spot.framePath_of_isPageFrame hFrame, Spot.lineage_of_isPageFrame hFrame, hFound, hMem,
        hFits]
    | false =>
      -- With bare tags the path is read as it was meant; else it cannot select the element at all.
      by_cases hTags : ∀ a ∈ s.lineage, Selector.IsBareName a.name
      · obtain ⟨hLarge, hSmall⟩ := Spot.select?_framePath_of_bare hTidy hs hFrame hTags
        by_cases hFits : s.PathFits
        · obtain ⟨found, hFound, hMem⟩ := hSmall hFits
          simp only [hFound, Option.some.injEq, exists_eq_left', hMem, hFits, true_and]
          refine ⟨⟨fun h a ha => ⟨hTags a ha, h a ha⟩, fun h a ha => (h a ha).2⟩, ?_⟩
          simp
        · simp [hLarge hFits, hFits]
      · refine ⟨iff_of_false ?_ fun h => hTags fun a ha => (h.2 a ha).1, fun h => absurd h hTags⟩
        rintro ⟨found, hFound, hMem⟩
        exact hTags (Spot.isBareName_of_mem_framePath hTidy (Page.isTagName_of_read hPage) hs hFrame
          (hSigns hId) hFound hMem)

/-- Two menus, one with a tag that goes on with a point. -/
def twoMenus : String := "<main><x-é class=menu></x-é><x.menu class=menu></x.menu></main>"

/-- The first menu is selected by its path, and the second is not. -/
theorem mem_select?_structuralPath_iff_twoMenus :
    ∃ page, Page.read twoMenus = .ok page ∧ ∃ first ∈ page.elements, ∃ second ∈ page.elements,
      first.structuralPath page.root = "main > x-é.menu" ∧
      second.structuralPath page.root = "main > x.menu.menu" ∧
      (∃ found, page.root.select? (first.structuralPath page.root) = some found ∧ first ∈ found) ∧
      ¬∃ found, page.root.select? (second.structuralPath page.root) = some found ∧
        second ∈ found := by
  have hFound : (match Page.read twoMenus with
      | .ok page => decide (∃ first ∈ page.elements, ∃ second ∈ page.elements,
          first.structuralPath page.root = "main > x-é.menu" ∧
          second.structuralPath page.root = "main > x.menu.menu" ∧
          (∀ a ∈ first.lineage, a.KeepsSegment) ∧ (∀ a ∈ second.lineage, a.KeepsSegment) ∧
          first.PathFits ∧ (∀ a ∈ first.lineage, Selector.IsBareName a.name ∧
            ∀ token ∈ a.stableClasses, Selector.seenText token ∈ a.classTokens) ∧
          second.uniqueId? page.root = none ∧
          ¬∀ a ∈ second.lineage, Selector.IsBareName a.name)
      | .error _ => false) = true := by decide +kernel
  split at hFound
  · rename_i page hPage
    obtain ⟨first, hFirst, second, hSecond, hMenu, hPoint, hKeeps, hKeepsPoint, hFits, hLevels, hId,
      hStray⟩ := of_decide_eq_true hFound
    refine ⟨page, hPage, first, hFirst, second, hSecond, hMenu, hPoint, ?_, fun hMem => ?_⟩
    · exact (mem_select?_structuralPath_iff hPage hFirst fun _ => hKeeps).1.mpr (.inr ⟨hFits, hLevels⟩)
    · rcases (mem_select?_structuralPath_iff hPage hSecond fun _ => hKeepsPoint).1.mp hMem with
        hSome | ⟨_, hBare⟩
      · rw [hId] at hSome
        cases hSome
      · exact hStray fun a ha => (hBare a ha).1
  · cases hFound

/-- Tags with a colon and with a point. -/
def strayTags : String := "<a:b></a:b><x.y></x.y>"

/-- The path of the first element cannot be read, and that of the second selects nothing. -/
theorem select?_structuralPath_strayTags :
    ∃ page, Page.read strayTags = .ok page ∧ ∃ first ∈ page.elements, ∃ second ∈ page.elements,
      first.structuralPath page.root = "a:b" ∧
      page.root.select? (first.structuralPath page.root) = none ∧
      second.structuralPath page.root = "x.y" ∧
      page.root.select? (second.structuralPath page.root) = some [] := by
  have hFound : (match Page.read strayTags with
      | .ok page => decide (∃ first ∈ page.elements, ∃ second ∈ page.elements,
          first.structuralPath page.root = "a:b" ∧
          (page.root.select? (first.structuralPath page.root)).isNone ∧
          second.structuralPath page.root = "x.y" ∧
          (page.root.select? (second.structuralPath page.root)).map List.length = some 0)
      | .error _ => false) = true := by decide +kernel
  split at hFound
  · rename_i page hPage
    obtain ⟨first, hFirst, second, hSecond, hColon, hNone, hPoint, hNothing⟩ :=
      of_decide_eq_true hFound
    refine ⟨page, hPage, first, hFirst, second, hSecond, hColon, Option.isNone_iff_eq_none.mp hNone,
      hPoint, ?_⟩
    obtain ⟨found, hSelect, hLength⟩ := Option.map_eq_some_iff.mp hNothing
    rw [hSelect, List.length_eq_zero_iff.mp hLength]
  · cases hFound

end StableLocator
