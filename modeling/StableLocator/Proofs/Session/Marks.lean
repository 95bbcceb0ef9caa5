import StableLocator.Proofs.Page.Without
import StableLocator.Session.Marks

/-!
# Marks on pages

Pages that nobody has marked are the same again after marks come and go.

* `Page.eraseAt_markAt` — a page that lacks the attribute is itself again without its marks;
* `Page.exists_marked_iff` — which places of a marked page bear the mark;
* `Pages.marked` — pages with each mark on its own page, with `Pages.clear_marked` and
  `Pages.mark_eq_marked` for the two steps of a verification.
-/

namespace StableLocator
namespace Page

variable {name : String} {page : Page} {places : List Place}

/-! ## One page -/

theorem eraseAt_nil (name : String) (page : Page) : page.eraseAt name [] = page :=
  mapAttrs_eq_self fun _ _ => rfl

theorem markAt_nil (name : String) (page : Page) : page.markAt name [] = page :=
  mapAttrs_eq_self fun _ _ => rfl

/-- Marks that are taken off leave no trace. -/
theorem eraseAt_markAt (h : page.Lacks name) (places : List Place) :
    (page.markAt name places).eraseAt name places = page := by
  rw [markAt, eraseAt, mapAttrs_mapAttrs]
  refine mapAttrs_eq_self fun s hs => ?_
  split
  · rw [Attributes.erase_put, Attributes.erase_eq_self (h s hs)]
  · rfl

/-- Apart from the attribute of its marks, a marked page is what it was. -/
theorem without_markAt (h : page.Lacks name) (places : List Place) :
    (page.markAt name places).without name = page := by
  rw [markAt, without, mapAttrs_mapAttrs]
  refine mapAttrs_eq_self fun s hs => ?_
  split
  · rw [Attributes.erase_put, Attributes.erase_eq_self (h s hs)]
  · exact Attributes.erase_eq_self (h s hs)

theorem placesSeenWith_eq_nil (h : page.Lacks name) : page.placesSeenWith name = [] := by
  have hUnseen : ∀ s ∈ page.elements, s.attrs.lookup name = none := fun s hs =>
    Option.isNone_iff_eq_none.mp (by rw [← Option.not_isSome, ← Attributes.has, h s hs]; rfl)
  rw [placesSeenWith, List.map_eq_nil_iff, List.filter_eq_nil_iff]
  intro s hs
  rw [hUnseen s hs]
  exact Bool.false_ne_true

/-- What a mark makes of the attributes in one place. -/
theorem attrs_of_mem_markAt {s : Spot} (hs : s ∈ (page.markAt name places).elements) :
    ∃ t ∈ page.elements, t.place = s.place ∧
      s.attrs = if places.contains t.place then t.attrs.put name (.single "true") else t.attrs :=
  exists_of_mem_mapAttrs hs

/-- Each element is on the marked page, with the mark if its place is marked. -/
theorem exists_mem_markAt {t : Spot} (ht : t ∈ page.elements) (name : String)
    (places : List Place) :
    ∃ s ∈ (page.markAt name places).elements, s.place = t.place ∧
      s.attrs = if places.contains t.place then t.attrs.put name (.single "true") else t.attrs :=
  exists_mem_mapAttrs ht _

/-- On a marked page an element has the attribute if its place is marked. -/
theorem has_of_mem_markAt (h : page.Lacks name) {s : Spot}
    (hs : s ∈ (page.markAt name places).elements) :
    s.attrs.has name = places.contains s.place := by
  obtain ⟨t, ht, hPlace, hAttrs⟩ := attrs_of_mem_markAt hs
  rw [hAttrs, hPlace]
  cases places.contains s.place with
  | true =>
    rw [if_pos rfl, Attributes.has, Attributes.lookup_put]
    rfl
  | false =>
    rw [if_neg Bool.false_ne_true]
    exact h t ht

/-- Every mark is worth the same. -/
theorem lookup_of_mem_markAt (h : page.Lacks name) {s : Spot}
    (hs : s ∈ (page.markAt name places).elements) (hHas : s.attrs.has name = true) :
    s.attrs.lookup name = some (.single "true") := by
  rw [has_of_mem_markAt h hs] at hHas
  obtain ⟨t, _, hPlace, hAttrs⟩ := attrs_of_mem_markAt hs
  rw [hAttrs, hPlace, if_pos hHas, Attributes.lookup_put]

/-- The marked places of a page are those with the attribute. -/
theorem exists_marked_iff (h : page.Lacks name)
    (hPlaces : ∀ place ∈ places, ∃ t ∈ page.elements, t.place = place) (place : Place) :
    (∃ s ∈ (page.markAt name places).elements, s.place = place ∧ s.attrs.has name = true) ↔
      place ∈ places := by
  constructor
  · rintro ⟨s, hs, rfl, hHas⟩
    rw [has_of_mem_markAt h hs] at hHas
    exact List.contains_iff_mem.mp hHas
  · intro hPlace
    obtain ⟨t, ht, rfl⟩ := hPlaces place hPlace
    obtain ⟨s, hs, hSame, _⟩ := exists_mem_markAt ht name places
    refine ⟨s, hs, hSame, ?_⟩
    rw [has_of_mem_markAt h hs, hSame]
    exact List.contains_iff_mem.mpr hPlace

end Page

namespace Pages

variable {name : String} {pages : Pages}

/-! ## Several pages -/

def marked (name : String) (marks : List Mark) (pages : Pages) : Pages :=
  pages.mapIdx fun number page => page.markAt name (placesOn marks number)

/-- Each page is marked at the places on it. -/
theorem getElem?_marked (name : String) (marks : List Mark) (pages : Pages) (n : Nat) :
    (marked name marks pages)[n]? =
      pages[n]?.map fun page => page.markAt name (placesOn marks n) :=
  List.getElem?_mapIdx

/-- Changing one page leaves the others. -/
theorem getElem?_change (pages : Pages) (number : Nat) (rule : Page → Page) (n : Nat) :
    (pages.change number rule)[n]? =
      pages[n]?.map fun page => if number = n then rule page else page :=
  List.getElem?_modify rule number pages n

theorem marked_nil (name : String) (pages : Pages) : marked name [] pages = pages := by
  refine List.ext_getElem? fun n => ?_
  rw [getElem?_marked]
  cases pages[n]? with
  | some page => exact congrArg some (page.markAt_nil name)
  | none => rfl

theorem page_marked (name : String) (marks : List Mark) (pages : Pages) (number : Nat) :
    page (marked name marks pages) number = (page pages number).markAt name (placesOn marks number) := by
  rw [page, page, getElem?_marked]
  cases pages[number]? with
  | some page => rfl
  | none => rfl

/-- No page has the attribute anywhere. -/
def Lack (name : String) (pages : Pages) : Prop := ∀ page ∈ pages, page.Lacks name

instance (name : String) (pages : Pages) : Decidable (Lack name pages) :=
  inferInstanceAs (Decidable (∀ page ∈ pages, page.Lacks name))

theorem Lack.page (h : Lack name pages) (number : Nat) : (page pages number).Lacks name := by
  rw [Pages.page]
  cases hPage : pages[number]? with
  | some page => exact h page (List.mem_of_getElem? hPage)
  | none =>
    intro s hs
    cases hs

/-- Marks that were put on are erased again. -/
theorem eraseMarks_marked (h : Lack name pages) (marks : List Mark) :
    eraseMarks name marks (marked name marks pages) = pages := by
  refine List.ext_getElem? fun n => ?_
  have hErase : (eraseMarks name marks (marked name marks pages))[n]? =
      (marked name marks pages)[n]?.map fun page => page.eraseAt name (placesOn marks n) :=
    List.getElem?_mapIdx
  rw [hErase, getElem?_marked]
  cases hPage : pages[n]? with
  | some page => exact congrArg some (Page.eraseAt_markAt (h page (List.mem_of_getElem? hPage)) _)
  | none => rfl

theorem change_eq_self {rule : Page → Page} {number : Nat}
    (h : rule (page pages number) = page pages number) : pages.change number rule = pages := by
  refine List.ext_getElem? fun n => ?_
  rw [getElem?_change]
  cases hPage : pages[n]? with
  | some other =>
    rw [Option.map_some]
    split
    · rename_i hNumber
      subst hNumber
      rw [page, hPage] at h
      exact congrArg some h
    · rfl
  | none => rfl

/-- Marked pages without the attribute are the pages before. -/
theorem map_without_marked (h : Lack name pages) (marks : List Mark) :
    (marked name marks pages).map (Page.without name) = pages := by
  refine List.ext_getElem? fun n => ?_
  rw [List.getElem?_map, getElem?_marked]
  cases hPage : pages[n]? with
  | some page => exact congrArg some (Page.without_markAt (h page (List.mem_of_getElem? hPage)) _)
  | none => rfl

/-- Clearing the marks leaves the pages as they were before they were marked. -/
theorem clear_marked (h : Lack name pages) (marks : List Mark) (number : Nat) :
    (clear name marks number (marked name marks pages)).2 = pages := by
  simp only [clear, eraseMarks_marked h, Page.placesSeenWith_eq_nil (h.page number)]
  exact change_eq_self (Page.eraseAt_nil name _)

/-- A mark is on its own page. -/
theorem mem_placesOn_iff {marks : List Mark} {m : Mark} :
    m.place ∈ placesOn marks m.page ↔ m ∈ marks := by
  simp only [placesOn, List.mem_map, List.mem_filter, beq_iff_eq]
  constructor
  · rintro ⟨⟨number, place⟩, ⟨hm', rfl⟩, rfl⟩
    exact hm'
  · exact fun hm => ⟨m, ⟨hm, rfl⟩, rfl⟩

/-- Places on one page are its places again. -/
theorem placesOn_map_mk (number : Nat) (places : List Place) :
    placesOn (places.map fun place => ⟨number, place⟩) number = places := by
  rw [placesOn, List.filter_map, List.map_map]
  simp [Function.comp_def]

/-- Places on one page are none on another. -/
theorem placesOn_map_mk_of_ne {number other : Nat} (h : number ≠ other) (places : List Place) :
    placesOn (places.map fun place => ⟨number, place⟩) other = [] := by
  simp [placesOn, List.filter_map, Function.comp_def, h]

theorem page_change {rule : Page → Page} (hEmpty : rule { nodes := [] } = { nodes := [] })
    (pages : Pages) (number : Nat) : page (pages.change number rule) number = rule (page pages number) := by
  rw [page, getElem?_change, page]
  cases pages[number]? with
  | some page => exact if_pos rfl
  | none => exact hEmpty.symm

/-- The page in use after marks were cleared. -/
theorem page_clear (name : String) (known : List Mark) (number : Nat) (pages : Pages) :
    page (clear name known number pages).2 number =
      let erased := (page pages number).eraseAt name (placesOn known number)
      erased.eraseAt name (erased.placesSeenWith name) := by
  have hErased : page (eraseMarks name known pages) number =
      (page pages number).eraseAt name (placesOn known number) := by
    rw [page, page, eraseMarks, List.getElem?_mapIdx]
    cases pages[number]? with
    | some page => rfl
    | none => rfl
  rw [← hErased]
  exact page_change rfl _ _

/-- The page in use after it was marked. -/
theorem page_mark (name : String) (places : List Place) (number : Nat) (pages : Pages) :
    page (mark name places number pages) number = (page pages number).markAt name places :=
  page_change rfl _ _

/-- Marking places of one page is marking all pages with marks that are all on this one. -/
theorem mark_eq_marked (name : String) (places : List Place) (number : Nat) (pages : Pages) :
    mark name places number pages =
      marked name (places.map fun place => ⟨number, place⟩) pages := by
  refine List.ext_getElem? fun n => ?_
  rw [mark, getElem?_change, getElem?_marked]
  by_cases hNumber : number = n
  · simp only [hNumber, placesOn_map_mk, if_true]
  · simp only [hNumber, placesOn_map_mk_of_ne hNumber, Page.markAt_nil, if_false]

end Pages
end StableLocator
