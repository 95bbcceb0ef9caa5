import Mathlib.Data.List.Nodup
import Mathlib.Data.List.Perm.Subperm
import StableLocator.Page.Visibility
import StableLocator.Proofs.Page.Walk
import StableLocator.Proofs.Table

/-!
# Document order

Spots of one page are told apart by their places, and the enumeration of the spots below a spot
goes through their places in ascending order.

* `Place.Before` — the lexicographic order of places, in which an outer place comes before those
  inside it;
* `Spot.sorted_descendants` — the enumeration is ascending;
* `Spot.eq_of_place_eq` — a place belongs to one spot;
* `Spot.before_of_mem_descendants` — what is below a spot comes before all that follows the spot
  outside it;
* `Page.mem_elements_of_mem_ancestors` — the elements around an element of a page are elements of
  the page, as they stand, and `Page.enclosing_eq` — around them is the page itself;
* `Page.eq_filter` — in document order, a list is told by its elements;
* `Page.isAround_iff` — an element is around another if and only if the other is below it.
-/

namespace StableLocator

/-! ## The order of places -/

/-- A place comes before another in document order. -/
def Place.Before (p q : Place) : Prop := List.Lex (· < ·) p q

namespace Place.Before

theorem irrefl (p : Place) : ¬ Place.Before p p := by
  intro h
  -- A first index that is less than itself, or the same question about the rest.
  induction p with
  | nil => cases h
  | cons i p ih =>
    cases h with
    | rel hi => exact Nat.lt_irrefl i hi
    | cons h => exact ih h

theorem trans {p q r : Place} (h₁ : Place.Before p q) (h₂ : Place.Before q r) :
    Place.Before p r := by
  induction h₁ generalizing r with
  | nil =>
    cases h₂ with
    | rel _ => exact .nil
    | cons _ => exact .nil
  | rel hi =>
    cases h₂ with
    | rel hj => exact .rel (Nat.lt_trans hi hj)
    | cons _ => exact .rel hi
  | cons _ ih =>
    cases h₂ with
    | rel hj => exact .rel hj
    | cons h₂ => exact .cons (ih h₂)

/-- What both places begin with does not matter for their order. -/
theorem append_left (p : Place) {q r : Place} (h : Place.Before q r) :
    Place.Before (p ++ q) (p ++ r) := by
  induction p with
  | nil => exact h
  | cons i p ih => exact .cons ih

/-- A place comes before the places inside it. -/
theorem inside (p : Place) (i : Nat) (q : Place) : Place.Before p (p ++ i :: q) := by
  simpa using append_left p (q := []) (r := i :: q) .nil

/-- Of two places inside a third, the one further to the left comes first. -/
theorem beside (p : Place) {i j : Nat} (h : i < j) (q r : Place) :
    Place.Before (p ++ i :: q) (p ++ j :: r) :=
  append_left p (.rel h)

end Place.Before

namespace Spot

def Before (s t : Spot) : Prop := s.place.Before t.place

theorem Before.trans {s t u : Spot} (h₁ : s.Before t) (h₂ : t.Before u) : s.Before u :=
  Place.Before.trans h₁ h₂

theorem Before.irrefl (s : Spot) : ¬ s.Before s :=
  Place.Before.irrefl s.place

instance : IsTrans Spot Before := ⟨fun _ _ _ => Before.trans⟩

instance : Std.Irrefl Before := ⟨Before.irrefl⟩

/-! ## Places below a spot -/

/-- A spot of a row stands behind the nodes to the left of the row. -/
theorem place_of_mem_rowSpots {tag : String} {attrs : Attributes} {outer : Context}
    {left nodes : List Node} {c : Spot} (h : c ∈ rowSpots tag attrs outer left nodes) :
    ∃ i, left.length ≤ i ∧ c.place = outer.place ++ [i] := by
  obtain ⟨before, after, _, hContext⟩ := mem_rowSpots_iff.1 h
  -- The index of a spot counts all the nodes to the left of it, texts among them.
  refine ⟨before.length + left.length, by omega, ?_⟩
  rw [place, hContext, Context.place]
  simp

/-- A child is one step further. -/
theorem place_of_mem_children {s c : Spot} (h : c ∈ s.children) :
    ∃ i, c.place = s.place ++ [i] := by
  obtain ⟨i, _, hPlace⟩ := place_of_mem_rowSpots h
  exact ⟨i, hPlace⟩

/-- An element below is some steps further. -/
theorem place_of_mem_descendants {s t : Spot} (h : t ∈ s.descendants) :
    ∃ i q, t.place = s.place ++ i :: q := by
  rw [mem_descendants_iff] at h
  induction h with
  | child hc =>
    obtain ⟨i, hPlace⟩ := place_of_mem_children hc
    exact ⟨i, [], hPlace⟩
  | deeper _ hc ih =>
    obtain ⟨i, q, hOuter⟩ := ih
    obtain ⟨j, hPlace⟩ := place_of_mem_children hc
    exact ⟨i, q ++ [j], by simp [hPlace, hOuter]⟩

/-- A spot comes before all that is below it. -/
theorem before_of_mem {s t : Spot} (h : t ∈ s.descendants) : s.Before t := by
  obtain ⟨i, q, hPlace⟩ := place_of_mem_descendants h
  rw [Before, hPlace]
  exact Place.Before.inside s.place i q

/-- A spot or a spot below it has a place that goes on from its own. -/
theorem place_of_mem_cons {s t : Spot} (h : t ∈ s :: s.descendants) :
    ∃ q, t.place = s.place ++ q := by
  rcases List.mem_cons.1 h with rfl | h
  · exact ⟨[], by simp⟩
  · obtain ⟨i, q, hPlace⟩ := place_of_mem_descendants h
    exact ⟨i :: q, hPlace⟩

/-- In a row, whatever belongs to one spot comes before whatever belongs to a later one. -/
theorem rowSpots_pairwise (tag : String) (attrs : Attributes) (outer : Context)
    (left nodes : List Node) :
    (rowSpots tag attrs outer left nodes).Pairwise fun c d =>
      ∀ t ∈ c :: c.descendants, ∀ u ∈ d :: d.descendants, t.Before u := by
  induction nodes generalizing left with
  | nil => simp [rowSpots]
  | cons node rest ih =>
    cases node with
    | text kind content => exact ih _
    | element tag' attrs' nodes' =>
      rw [rowSpots, List.pairwise_cons]
      refine ⟨fun d hd t ht u hu => ?_, ih _⟩
      obtain ⟨j, hj, hd⟩ := place_of_mem_rowSpots hd
      obtain ⟨q, ht⟩ := place_of_mem_cons ht
      obtain ⟨r, hu⟩ := place_of_mem_cons hu
      -- The later spot stands behind this node, and what belongs to either is inside its place.
      have hLess : left.length < j := by
        rw [List.length_cons] at hj
        omega
      rw [Before, ht, hu, hd]
      simp only [place, Context.place, List.append_assoc, List.singleton_append]
      exact Place.Before.beside outer.place hLess q r

/-- The spots below a spot are enumerated in document order. -/
theorem sorted_descendants (s : Spot) : s.descendants.Pairwise Before := by
  induction s using induct with
  | step s ih =>
    rw [descendants_eq_flatMap, List.pairwise_flatMap]
    -- Within what belongs to one child by induction, between two children by their indices.
    refine ⟨fun c hc => ?_, rowSpots_pairwise ..⟩
    rw [List.pairwise_cons]
    exact ⟨fun t ht => before_of_mem ht, ih c hc⟩

/-- Places tell the elements below a spot apart. -/
theorem nodup_places_descendants (r : Spot) : (r.descendants.map place).Nodup := by
  rw [List.Nodup, List.pairwise_map]
  refine r.sorted_descendants.imp fun {s t} hBefore hSame => ?_
  exact Before.irrefl t (by simpa [Before, hSame] using hBefore)

/-- Below one spot, a place belongs to one spot. -/
theorem eq_of_place_eq {r s t : Spot} (hs : s ∈ r.descendants) (ht : t ∈ r.descendants)
    (h : s.place = t.place) : s = t :=
  List.inj_on_of_nodup_map r.nodup_places_descendants hs ht h

theorem place_ne_of_mem {s t : Spot} (h : t ∈ s.descendants) : t.place ≠ s.place := by
  intro hSame
  have hBefore := before_of_mem h
  rw [Before, hSame] at hBefore
  exact Place.Before.irrefl s.place hBefore

/-- In one tree, its top included, a place belongs to one spot. -/
theorem eq_of_place_eq_cons {r s t : Spot} (hs : s ∈ r :: r.descendants)
    (ht : t ∈ r :: r.descendants) (h : s.place = t.place) : s = t := by
  rcases List.mem_cons.mp hs with rfl | hs <;> rcases List.mem_cons.mp ht with rfl | ht
  · rfl
  · exact absurd h.symm (place_ne_of_mem ht)
  · exact absurd h (place_ne_of_mem hs)
  · exact eq_of_place_eq hs ht h

/-- Below one spot, spots are the same just if they are equal. -/
theorem same_iff {r s t : Spot} (hs : s ∈ r.descendants) (ht : t ∈ r.descendants) :
    s.same t = true ↔ s = t := by
  rw [same, beq_iff_eq]
  exact ⟨eq_of_place_eq hs ht, fun h => by rw [h]⟩

/-- What is below a spot comes before all that follows the spot without being below it. -/
theorem before_of_mem_descendants {r s t u : Spot} (hs : s ∈ r.descendants)
    (ht : t ∈ s.descendants) (hu : u ∈ r.descendants) (hBefore : s.Before u)
    (hOut : u ∉ s.descendants) : t.Before u := by
  -- The enumeration falls into what is before `s`, then `s`, what is below it, and what follows.
  obtain ⟨before, after, hSplit⟩ := descendants_infix hs
  have hSorted := r.sorted_descendants
  rw [← hSplit, List.append_assoc, List.pairwise_append, List.cons_append,
    List.pairwise_cons, List.pairwise_append] at hSorted
  obtain ⟨_, ⟨_, _, _, hAfter⟩, hLeft⟩ := hSorted
  rw [← hSplit] at hu
  simp only [List.append_assoc, List.cons_append, List.mem_append, List.mem_cons] at hu
  rcases hu with hu | rfl | hu | hu
  · have hBack : u.Before s := hLeft u hu s List.mem_cons_self
    exact absurd (hBefore.trans hBack) (Before.irrefl s)
  · exact absurd hBefore (Before.irrefl u)
  · exact absurd hu hOut
  · exact hAfter t ht u hu

/-! ## Around a spot -/

/-- What is around a spot below another is the other, below it, or around it. -/
theorem mem_enclosing_of_below {r a t : Spot} (h : Below r t) (ha : a ∈ t.enclosing) :
    a = r ∨ Below r a ∨ a ∈ r.enclosing := by
  induction h with
  | child hc =>
    rw [enclosing_of_parent? (parent?_eq_some_iff.2 hc), List.mem_cons] at ha
    rcases ha with rfl | ha
    · exact Or.inl rfl
    · exact Or.inr (Or.inr ha)
  | deeper hu hc ih =>
    rw [enclosing_of_parent? (parent?_eq_some_iff.2 hc), List.mem_cons] at ha
    rcases ha with rfl | ha
    · exact Or.inr (Or.inl hu)
    · exact ih ha

def isAround (s t : Spot) : Bool := t.ancestors.any s.same

end Spot

namespace Page

variable {page : Page}

theorem root_enclosing (page : Page) : page.root.enclosing = [] := rfl

theorem root_isDocument (page : Page) : page.root.isDocument = true := rfl

/-- What is inside an element of a page is an element of the page. -/
theorem mem_elements_of_mem_descendants {s t : Spot} (hs : s ∈ page.elements)
    (ht : t ∈ s.descendants) : t ∈ page.elements :=
  Spot.mem_descendants_trans hs ht

/-- The elements around an element of a page are elements of the page. -/
theorem mem_elements_of_mem_ancestors {a s : Spot} (hs : s ∈ page.elements)
    (ha : a ∈ s.ancestors) : a ∈ page.elements := by
  rw [Spot.ancestors, List.mem_filter] at ha
  obtain ⟨hAround, hElement⟩ := ha
  -- Around an element of the page stand elements of the page and its root, which is none.
  rcases Spot.mem_enclosing_of_below (Spot.mem_descendants_iff.1 hs) hAround with h | h | h
  · rw [h, root_isDocument] at hElement
    simp at hElement
  · exact Spot.mem_descendants_iff.2 h
  · rw [root_enclosing] at h
    simp at h

/-- The element at the place of an element is that element. -/
theorem find?_place {s : Spot} (hs : s ∈ page.elements) : page.find? s.place = some s :=
  find?_eq_some_of_unique hs (beq_self_eq_true s.place) fun _ ht hSame =>
    Spot.eq_of_place_eq ht hs (beq_iff_eq.mp hSame)

/-- Around an element of a page are elements, and the page last. -/
theorem enclosing_eq {m : Spot} (hm : m ∈ page.elements) :
    m.enclosing = m.ancestors ++ [page.root] := by
  have hStep {c p : Spot} (hc : c ∈ p.children) (hp : p.isDocument = false)
      (h : p.enclosing = p.ancestors ++ [page.root]) : c.enclosing = c.ancestors ++ [page.root] := by
    have hParent := Spot.parentElement?_of_mem_children hp hc
    rw [Spot.enclosing_of_parent? (Spot.parent?_of_parentElement? hParent), h,
      Spot.ancestors_of_parentElement? hParent, List.cons_append]
  obtain hBelow := Spot.mem_descendants_iff.mp hm
  induction hBelow with
  | child hc =>
    have hAround := Spot.enclosing_of_parent? (Spot.parent?_eq_some_iff.mpr hc)
    rw [Spot.ancestors, hAround, root_enclosing, List.filter_cons_of_neg (by simp [root_isDocument]),
      List.filter_nil, List.nil_append]
  | deeper hp hc ih =>
    have hp := Spot.mem_descendants_iff.mpr hp
    exact hStep hc (Spot.isDocument_eq_false_of_mem hp) (ih hp)

/-- Among the elements of a page in document order, a list is told by what is in it. -/
theorem eq_filter {found : List Spot} (hSub : found.Sublist page.elements) {p : Spot → Bool}
    (h : ∀ m, m ∈ found ↔ m ∈ page.elements ∧ p m = true) : found = page.elements.filter p := by
  have hKept : found.filter p = found := List.filter_eq_self.mpr fun m hm => ((h m).mp hm).2
  have hAmong : found.Sublist (page.elements.filter p) := hKept ▸ hSub.filter p
  have hNodup : List.Nodup (page.elements.filter p) :=
    (page.root.nodup_places_descendants.of_map _).filter p
  refine hAmong.eq_of_length_le (List.Nodup.subperm hNodup fun m hm => ?_).length_le
  exact (h m).mpr (List.mem_filter.mp hm)

/-- An element is around another if and only if the other is below it. -/
theorem isAround_iff {s t : Spot} (hs : s ∈ page.elements) (ht : t ∈ page.elements) :
    s.isAround t = true ↔ t ∈ s.descendants := by
  rw [Spot.isAround, List.any_eq_true]
  constructor
  · rintro ⟨a, ha, hSame⟩
    -- The element at the place of `s` is `s` itself, with all that is below it.
    have hPage : a ∈ page.elements := mem_elements_of_mem_ancestors ht ha
    have hEq : s = a := (Spot.same_iff hs hPage).mp hSame
    rw [Spot.ancestors, List.mem_filter, ← hEq] at ha
    exact Spot.mem_enclosing_iff_mem_descendants.mp ha.1
  · intro hBelow
    have hEnclosing : s ∈ t.enclosing := Spot.mem_enclosing_iff_mem_descendants.mpr hBelow
    have hElement : s.isDocument = false := Spot.isDocument_eq_false_of_mem hs
    have hAncestor : s ∈ t.ancestors := by
      rw [Spot.ancestors, List.mem_filter]
      exact ⟨hEnclosing, by simp [hElement]⟩
    exact ⟨s, hAncestor, (Spot.same_iff hs hs).mpr rfl⟩

end Page
end StableLocator
