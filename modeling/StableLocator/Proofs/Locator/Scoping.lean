import StableLocator.Proofs.Locator.Chain

/-!
# Scopes restrict

Whether a query finds an element has nothing to do with where the query searches, although visibility,
roles and names look at elements outside the scope: those around it, and those that references lead to.
A scope only takes its part of what is found in the page.

* `Page.descendants_eq_filter` — what is below an element, as a part of the page;
* `found_within` — inside an element a query finds its part of what it finds in the page.
-/

namespace StableLocator

namespace Page

variable {page : Page} {s : Spot}

/-- What is below an element is the part of the page around which the element is. -/
theorem descendants_eq_filter (hs : s ∈ page.elements) :
    s.descendants = page.elements.filter s.isAround := by
  have hPart : s :: s.descendants <:+: page.elements := Spot.descendants_infix hs
  have hSub : s.descendants.Sublist page.elements :=
    (List.sublist_cons_self s s.descendants).trans hPart.sublist
  apply eq_filter hSub
  intro t
  constructor
  · intro ht
    have hPage : t ∈ page.elements := hSub.subset ht
    exact ⟨hPage, (isAround_iff hs hPage).mpr ht⟩
  · rintro ⟨hPage, hAround⟩
    exact (isAround_iff hs hPage).mp hAround

end Page

/-- A query that is no selector finds inside an element what it finds in the page and the element is
around, whether the element itself shows or not: no strategy answers for another scope in another way.
The elements come in document order, each of them once. -/
theorem found_within {page : Page} {s : Spot} (hs : s ∈ page.elements) {q : Query}
    (hPath : q.strategy ≠ .path) (lens : Lens) :
    (q.scopedTo (.within s.place)).found lens page =
        ((q.scopedTo .page).found lens page).filter s.isAround ∧
      (∀ t ∈ page.elements, s.isAround t = true ↔ t ∈ s.descendants) ∧
      ((q.scopedTo (.within s.place)).found lens page).Sublist page.elements ∧
      (((q.scopedTo (.within s.place)).found lens page).map Spot.place).Nodup := by
  have hInside : (q.scopedTo (.within s.place)).found lens page =
      s.descendants.filter (q.finds lens) := by
    rw [Query.found_scopedTo_within q lens hs, matchesIn_eq_filter hPath]
  have hAll : (q.scopedTo .page).found lens page = page.elements.filter (q.finds lens) := by
    have hSearch : (q.scopedTo .page).found lens page = q.matchesIn lens page.root := rfl
    rw [hSearch, matchesIn_eq_filter hPath]
    rfl
  -- The query picks from a part of the page, so picking the part may come second.
  have hPart : s.descendants.filter (q.finds lens) =
      (page.elements.filter (q.finds lens)).filter s.isAround :=
    calc s.descendants.filter (q.finds lens)
        = (page.elements.filter s.isAround).filter (q.finds lens) := by
          rw [← Page.descendants_eq_filter hs]
      _ = (page.elements.filter (q.finds lens)).filter s.isAround := List.filter_comm ..
  have hSub : (s.descendants.filter (q.finds lens)).Sublist page.elements := by
    rw [hPart]
    exact List.filter_sublist.trans List.filter_sublist
  refine ⟨?_, ?_, ?_, ?_⟩
  · rw [hInside, hAll]
    exact hPart
  · intro t ht
    exact Page.isAround_iff hs ht
  · rw [hInside]
    exact hSub
  · rw [hInside]
    exact page.root.nodup_places_descendants.sublist (hSub.map Spot.place)

/-- A field set that the browser shows nothing of but a button, and the same button beside it; both
are named by an element elsewhere in the page. -/
def twinSaves : Page where
  nodes :=
    [.element "p" [("id", .single "note"), (Visibility.stampName, .single "false")]
        [.text .plain "Save"],
      .element "fieldset" [(Visibility.stampName, .single "true")] [button],
      button]
where
  /-- The button, which its surroundings do not hide. -/
  button : Node :=
    .element "button" [("aria-labelledby", .single "note"), (Visibility.stampName, .single "false")]
      []

def saveLabel : Query := { strategy := .label, value := "Save" }

/-- The query finds both buttons in the page, and inside the field set the one that is there, although
the set itself does not show. -/
theorem found_within_twinSaves :
    ∃ s ∈ twinSaves.elements, s.isVisible = false ∧ saveLabel.strategy ≠ .path ∧
      ((saveLabel.scopedTo .page).found (Lens.ofPage twinSaves 120 []) twinSaves).map Spot.place =
        [[1, 0], [2]] ∧
      ((saveLabel.scopedTo (.within s.place)).found (Lens.ofPage twinSaves 120 []) twinSaves).map
        Spot.place = [[1, 0]] ∧
      (saveLabel.scopedTo (.within s.place)).found (Lens.ofPage twinSaves 120 []) twinSaves =
        ((saveLabel.scopedTo .page).found (Lens.ofPage twinSaves 120 []) twinSaves).filter
          s.isAround := by
  have hFound : ∃ s ∈ twinSaves.elements, s.isVisible = false ∧
      ((saveLabel.scopedTo .page).found (Lens.ofPage twinSaves 120 []) twinSaves).map Spot.place =
        [[1, 0], [2]] ∧
      ((saveLabel.scopedTo (.within s.place)).found (Lens.ofPage twinSaves 120 []) twinSaves).map
        Spot.place = [[1, 0]] := by decide +kernel
  rcases hFound with ⟨s, hs, hHidden, hAll, hInside⟩
  have hPath : saveLabel.strategy ≠ .path := by decide
  exact ⟨s, hs, hHidden, hPath, hAll, hInside, (found_within hs hPath (Lens.ofPage twinSaves 120 [])).1⟩

end StableLocator
