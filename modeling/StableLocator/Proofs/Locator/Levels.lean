import StableLocator.Proofs.Locator.Fallback
import StableLocator.Proofs.Locator.Sole

/-!
# The elements that a path selects

Without a unique id, the path of an element spells out its levels: the element, its parent, and so on
up to the page frame. What it selects can be said without selectors. It is every element of the page
that, with as many of the elements around it, resembles these levels one by one, and that has a `body`
around them if the levels end at one.

* `ResemblesUp` and `resemblesUp_iff` — resemblance level by level;
* `select?_structuralPath_eq_filter` — a path selects what resembles its element level by level;
* `select?_structuralPath_manyKeys` — unless the path is too large for a selector.
-/

namespace StableLocator

/-- An element of the second list is related to one of the first. -/
theorem exists_of_forall₂ {α β : Type} {R : α → β → Prop} {as : List α} {bs : List β}
    (h : List.Forall₂ R as bs) {b : β} (hb : b ∈ bs) : ∃ a ∈ as, R a b := by
  induction h with
  | nil => exact absurd hb List.not_mem_nil
  | cons hFirst _ ih =>
    rcases List.mem_cons.mp hb with rfl | hb
    · exact ⟨_, List.mem_cons_self, hFirst⟩
    · obtain ⟨a, ha, hR⟩ := ih hb
      exact ⟨a, List.mem_cons_of_mem _ ha, hR⟩

namespace Spot

variable {page : Page} {m n s : Spot}

instance (m n : Spot) : Decidable (m.Resembles n) :=
  decidable_of_iff (m.name = n.name ∧ (∀ token ∈ n.stableClasses, token ∈ m.classTokens) ∧
      (n.SharesSignature → m.typePosition = n.typePosition))
    ⟨fun h => ⟨h.1, h.2.1, h.2.2⟩, fun h => ⟨h.name, h.classes, h.position⟩⟩

/-- The element and those around it, from the inside as many as the other element has levels below
its page frame, resemble these levels; if the frame is a `body`, the next one around is a `body`. -/
structure ResemblesUp (m s : Spot) : Prop where
  levels : List.Forall₂ Resembles ((m :: m.ancestors).take s.lineage.length) s.lineage.reverse
  frame : s.frame?.any (fun f => f.name == "body") →
    (m :: m.ancestors)[s.lineage.length]?.any (fun f => f.name == "body")

instance (m s : Spot) : Decidable (m.ResemblesUp s) :=
  decidable_of_iff
    (List.Forall₂ Resembles ((m :: m.ancestors).take s.lineage.length) s.lineage.reverse ∧
      (s.frame?.any (fun f => f.name == "body") →
        (m :: m.ancestors)[s.lineage.length]?.any (fun f => f.name == "body")))
    ⟨fun h => ⟨h.1, h.2⟩, fun h => ⟨h.levels, h.frame⟩⟩

/-- The page itself resembles no element with a plain tag. -/
theorem not_resembles_root (hn : n.Plain) : ¬page.root.Resembles n := by
  intro h
  have hTag : Selector.IsPlainTag page.root.name := h.name ▸ hn.tag
  have hNot : ¬Selector.IsPlainTag (Text.lower "[document]") := by decide
  exact hNot hTag

/-- Resemblance level by level splits what is around an element into the levels and the rest. -/
theorem resemblesUp_iff (hm : m ∈ page.elements) (hPlain : ∀ a ∈ s.lineage, a.Plain) :
    m.ResemblesUp s ↔ ∃ inner rest, m :: m.enclosing = inner ++ rest ∧
      List.Forall₂ (fun n m => m.Resembles n) s.lineage.reverse inner ∧
      (s.frame?.any (fun f => f.name == "body") → ∃ y, rest.head? = some y ∧ y.name = "body") := by
  rw [Page.enclosing_eq hm, ← List.cons_append]
  have hFlip {l l' : List Spot} :
      List.Forall₂ Resembles l l' ↔ List.Forall₂ (fun n m => m.Resembles n) l' l :=
    ⟨fun h => h.flip, fun h => h.flip⟩
  have hLength : s.lineage.reverse.length = s.lineage.length := List.length_reverse
  constructor
  · rintro ⟨hLevels, hFrame⟩
    refine ⟨(m :: m.ancestors).take s.lineage.length,
      (m :: m.ancestors).drop s.lineage.length ++ [page.root], ?_, hFlip.mp hLevels, fun hBody => ?_⟩
    · rw [← List.append_assoc, List.take_append_drop]
    · obtain ⟨y, hy, hName⟩ := (Option.any_eq_true ..).mp (hFrame hBody)
      refine ⟨y, ?_, beq_iff_eq.mp hName⟩
      rw [List.head?_append, List.head?_drop, hy]
      rfl
  · rintro ⟨inner, rest, hSplit, hLevels, hBody⟩
    have hInner : inner.length = s.lineage.length := hLevels.length_eq.symm.trans hLength
    -- The page is no level, so all the levels are elements.
    have hRoot : inner ≠ m :: m.ancestors ++ [page.root] := by
      rintro rfl
      obtain ⟨n, hn, hResembles⟩ := exists_of_forall₂ hLevels (b := page.root) (by simp)
      exact not_resembles_root (hPlain n (List.mem_reverse.mp hn)) hResembles
    obtain ⟨more, hMore⟩ : inner <+: m :: m.ancestors :=
      (List.prefix_concat_iff.mp ⟨rest, hSplit.symm⟩).resolve_left hRoot
    rw [← hMore, List.append_assoc, List.append_cancel_left_eq] at hSplit
    have hTake : (m :: m.ancestors).take s.lineage.length = inner := by
      rw [← hMore, ← hInner, List.take_left']
      rfl
    refine ⟨hTake ▸ hFlip.mpr hLevels, fun hFrame => ?_⟩
    obtain ⟨y, hHead, hName⟩ := hBody hFrame
    rw [← hMore, ← hInner, List.getElem?_append_right (Nat.le_refl _), Nat.sub_self,
      ← List.head?_eq_getElem?]
    -- What comes behind the levels is an element, since the page is no `body`.
    cases more with
    | nil =>
      rw [← hSplit] at hHead
      cases hHead
      have hRoot : Text.lower "[document]" ≠ "body" := by decide
      exact absurd hName hRoot
    | cons first more =>
      rw [← hSplit] at hHead
      cases hHead
      simp [hName]

end Spot

/-- On a tidy page, as any page that was read is one, the structural path of an element without a unique id
selects, in document order, the elements of the page that resemble it level by level, as long as a selector
can hold the path, and nothing if none can. -/
theorem select?_structuralPath_eq_filter {page : Page} (hTidy : page.Tidy) {s : Spot}
    (hs : s ∈ page.elements) (hId : s.uniqueId? page.root = none) (hFrame : s.isPageFrame = false)
    (hPlain : ∀ a ∈ s.lineage, a.Plain) :
    page.root.select? (s.structuralPath page.root) =
      if s.PathFits then some (page.elements.filter fun m => m.ResemblesUp s) else none := by
  obtain ⟨hLarge, hSmall⟩ := Spot.mem_select?_framePath_iff hTidy hs hFrame hPlain
  rw [Spot.structuralPath, hId, Option.getD_none]
  split
  · rename_i hFits
    obtain ⟨found, hFound, hSub, hMem⟩ := hSmall hFits
    rw [hFound, Option.some.injEq]
    refine Page.eq_filter hSub fun m => ?_
    rw [hMem, decide_eq_true_iff]
    exact and_congr_right fun hm => (Spot.resemblesUp_iff hm hPlain).symm
  · rename_i hLarge'
    exact hLarge hLarge'

/-- Two lists, of which one has a class, with items that have the same classes in another order. -/
def twoLists : String :=
  "<ul><li class=\"item\"></li><li class=\"item new\"></li></ul>" ++
    "<ul class=\"wide\"><li class=\"new item\"></li></ul>"

/-- The path of the second item of the first list selects the item of the other list, too. -/
theorem select?_structuralPath_eq_filter_twoLists :
    ∃ page, Page.read twoLists = .ok page ∧ ∃ s ∈ page.elements,
      s.framePath = "ul > li.item.new" ∧
      (page.root.select? (s.structuralPath page.root)).map (List.map Spot.place) =
        some [[0, 1], [1, 0]] := by
  have hFound : (match Page.read twoLists with
      | .ok page => decide (∃ s ∈ page.elements, s.framePath = "ul > li.item.new" ∧
          (s.uniqueId? page.root).isNone = true ∧ s.isPageFrame = false ∧
          (∀ a ∈ s.lineage, a.Plain) ∧ s.PathFits ∧
          (page.elements.filter fun m => m.ResemblesUp s).map Spot.place = [[0, 1], [1, 0]])
      | .error _ => false) = true := by decide +kernel
  split at hFound
  · rename_i page hPage
    obtain ⟨s, hs, hPath, hId, hFrame, hPlain, hFits, hPlaces⟩ := of_decide_eq_true hFound
    refine ⟨page, hPage, s, hs, hPath, ?_⟩
    rw [select?_structuralPath_eq_filter (Page.tidy_of_read hPage) hs
      (Option.isNone_iff_eq_none.mp hId) hFrame hPlain, if_pos hFits, Option.map_some, hPlaces]
  · cases hFound

/-- With as many classes as a selector may have tests, a paragraph resembles itself, but its path
selects nothing. -/
theorem select?_structuralPath_manyKeys :
    ∃ page, Page.read (crowdedMarkup manyKeys) = .ok page ∧ ∃ s ∈ page.elements,
      s.uniqueId? page.root = none ∧ s.isPageFrame = false ∧ (∀ a ∈ s.lineage, a.Plain) ∧
      page.root.select? (s.structuralPath page.root) ≠
        some (page.elements.filter fun m => m.ResemblesUp s) := by
  have hKeys : ∀ t ∈ manyKeys, IsKey t := fun _ => isKey_of_mem_manyKeys
  have hMany : Selector.sizeLimit ≤ manyKeys.length := by simp [manyKeys]
  have hFrame : (crowdedSpot manyKeys).isPageFrame = false := by
    simp [Spot.isPageFrame, name_crowdedSpot]
  have hPlain : ∀ a ∈ (crowdedSpot manyKeys).lineage, a.Plain := fun a ha =>
    around_crowdedSpot hKeys a (Spot.mem_of_mem_lineage ha)
  refine ⟨crowdedPage manyKeys, read_crowdedMarkup hKeys, crowdedSpot manyKeys,
    mem_elements_crowdedPage, uniqueId?_crowdedSpot, hFrame, hPlain, ?_⟩
  have hTidy := Page.tidy_of_read (read_crowdedMarkup hKeys)
  have hNone : (crowdedPage manyKeys).root.select? (crowdedSpot manyKeys).framePath = none :=
    (Spot.mem_select?_framePath_iff hTidy mem_elements_crowdedPage hFrame hPlain).1
      (not_pathFits_crowdedSpot hKeys nodup_manyKeys hMany)
  rw [Spot.structuralPath, uniqueId?_crowdedSpot, Option.getD_none, hNone]
  exact (Option.some_ne_none _).symm

end StableLocator
