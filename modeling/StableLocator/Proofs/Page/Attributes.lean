import Mathlib.Data.List.Basic
import StableLocator.Page.Spot
import StableLocator.Proofs.Table

/-!
# Changing attributes

A rule that changes attributes leaves the tree of a page as it is: the elements stay where they are,
and each of them has the attributes that the rule gives to the old ones.

* `Attributes.lookup_put`, `Attributes.lookup_erase`, `Attributes.erase_put` — reading, writing and
  erasing one attribute, which leaves the others alone;
* `Page.Lacks` — no element of the page has an attribute of this name;
* `Page.entries_mapAttrs`, `Page.exists_of_mem_mapAttrs` — the elements of the changed page;
* `Page.mapAttrs_mapAttrs`, `Page.mapAttrs_congr` — two rules in a row, and two rules that agree on
  the elements of the page.
-/

namespace StableLocator

/-! ## Single attributes -/

namespace Attributes

variable {name other : String} {attrs : Attributes}

theorem lookup_put (name : String) (value : AttrValue) (attrs : Attributes) :
    (attrs.put name value).lookup name = some value := by
  induction attrs with
  | nil => simp [put]
  | cons attr attrs ih =>
    obtain ⟨n, v⟩ := attr
    rw [put]
    split
    · rename_i hName
      simp [hName]
    · rename_i hName
      have hOther : (name == n) = false := beq_false_of_ne fun h => hName h.symm
      rw [List.lookup_cons, hOther]
      exact ih

/-- Writing one attribute does not touch any other. -/
theorem lookup_put_of_ne (h : other ≠ name) (value : AttrValue) (attrs : Attributes) :
    (attrs.put name value).lookup other = attrs.lookup other := by
  have hOther : (other == name) = false := beq_false_of_ne h
  induction attrs with
  | nil => rw [put, List.lookup_cons, hOther]
  | cons attr attrs ih =>
    obtain ⟨n, v⟩ := attr
    rw [put]
    split
    · rename_i hName
      rw [List.lookup_cons, List.lookup_cons, hName, hOther]
    · rw [List.lookup_cons, List.lookup_cons, ih]

/-- Erasing one attribute does not touch any other. -/
theorem lookup_erase (h : other ≠ name) (attrs : Attributes) :
    (attrs.erase name).lookup other = attrs.lookup other :=
  lookup_filter_ne h attrs

theorem has_eq_any (name : String) (attrs : Attributes) :
    attrs.has name = attrs.any fun attr => attr.1 == name := by
  induction attrs with
  | nil => rfl
  | cons attr attrs ih =>
    obtain ⟨n, v⟩ := attr
    rw [has] at ih
    rw [has, List.lookup_cons, List.any_cons, ← ih]
    by_cases hName : name = n
    · simp [hName]
    · have hForth : (name == n) = false := beq_false_of_ne hName
      have hBack : (n == name) = false := beq_false_of_ne fun h => hName h.symm
      simp only [hForth, hBack, Bool.false_or]

/-- Where an attribute is missing, there is nothing to erase. -/
theorem erase_eq_self (h : attrs.has name = false) : attrs.erase name = attrs := by
  rw [has_eq_any, List.any_eq_false] at h
  exact List.filter_eq_self.mpr fun attr hAttr => bne_iff_ne.mpr fun hName =>
    h attr hAttr (beq_iff_eq.mpr hName)

/-- An attribute that was put is erased with the one that it replaced. -/
theorem erase_put (name : String) (value : AttrValue) (attrs : Attributes) :
    (attrs.put name value).erase name = attrs.erase name := by
  induction attrs with
  | nil => simp [put, erase]
  | cons attr attrs ih =>
    obtain ⟨n, v⟩ := attr
    rw [put]
    split
    · rename_i hName
      simp [erase, hName]
    · simp only [erase, List.filter_cons] at ih ⊢
      rw [ih]

end Attributes

/-! ## Rules -/

/-- What a rule sees of an element, and what it changes. -/
def Spot.entry (s : Spot) : Place × Attributes := (s.place, s.attrs)

section Rows

variable {rule rule' : Place → Attributes → Attributes}

/-- The elements of a changed row, wherever the rows stand, provided that they stand in the same
place. -/
theorem entries_mapAttrsFrom (rule : Place → Attributes → Attributes) (nodes : List Node)
    {tag tag' : String} {attrs attrs' : Attributes} {outer outer' : Context}
    {left left' : List Node} (hOuter : outer.place = outer'.place)
    (hLeft : left.length = left'.length) :
    (rowTreeSpots tag attrs outer left
        (mapAttrsFrom rule outer'.place left'.length nodes)).map Spot.entry =
      (rowTreeSpots tag' attrs' outer' left' nodes).map fun s => (s.place, rule s.place s.attrs) := by
  induction nodes using forest_induction generalizing tag tag' attrs attrs' outer outer' left left'
  with
  | nil => rfl
  | text kind content rest ih =>
    have hRest := @ih tag tag' attrs attrs' outer outer' (.text kind content :: left)
      (.text kind content :: left') hOuter (congrArg (· + 1) hLeft)
    simp only [mapAttrsFrom, Node.mapAttrs, rowTreeSpots, Node.spots, List.nil_append]
    exact hRest
  | element t a children rest ihChildren ihRest =>
    have hPlace : outer.place ++ [left.length] = outer'.place ++ [left'.length] := by
      rw [hOuter, hLeft]
    -- The children stand inside the element, the rest of the row behind it.
    have hChildren := @ihChildren t t (rule (outer'.place ++ [left'.length]) a) a
      (.inside tag attrs left (mapAttrsFrom rule outer'.place (left'.length + 1) rest) outer)
      (.inside tag' attrs' left' rest outer') [] [] hPlace rfl
    have hRest := @ihRest tag tag' attrs attrs' outer outer'
      (.element t (rule (outer'.place ++ [left'.length]) a)
        (mapAttrsFrom rule (outer'.place ++ [left'.length]) 0 children) :: left)
      (.element t a children :: left') hOuter (congrArg (· + 1) hLeft)
    simp only [mapAttrsFrom, Node.mapAttrs, rowTreeSpots, Node.spots, List.map_append,
      List.map_cons, List.cons_append]
    exact congrArg₂ List.cons (Prod.ext hPlace rfl) (congrArg₂ (· ++ ·) hChildren hRest)

/-- Rules that agree on the elements of a row make the same of it. -/
theorem mapAttrsFrom_congr {nodes : List Node} {tag : String} {attrs : Attributes}
    {outer : Context} {left : List Node}
    (h : ∀ s ∈ rowTreeSpots tag attrs outer left nodes,
      rule s.place s.attrs = rule' s.place s.attrs) :
    mapAttrsFrom rule outer.place left.length nodes =
      mapAttrsFrom rule' outer.place left.length nodes := by
  induction nodes using forest_induction generalizing tag attrs outer left with
  | nil => rfl
  | text kind content rest ih =>
    exact congrArg (Node.text kind content :: ·)
      (@ih tag attrs outer (.text kind content :: left) h)
  | element t a children rest ihChildren ihRest =>
    simp only [rowTreeSpots, Node.spots, List.cons_append, List.forall_mem_cons,
      List.forall_mem_append] at h
    obtain ⟨hHere, hInside, hBehind⟩ := h
    have hHere : rule (outer.place ++ [left.length]) a = rule' (outer.place ++ [left.length]) a :=
      hHere
    have hChildren := @ihChildren t a (.inside tag attrs left rest outer) [] hInside
    have hRest := @ihRest tag attrs outer (.element t a children :: left) hBehind
    simp only [mapAttrsFrom, Node.mapAttrs]
    rw [hHere]
    exact congrArg₂ List.cons (congrArg (Node.element t _) hChildren) hRest

theorem mapAttrsFrom_mapAttrsFrom (rule rule' : Place → Attributes → Attributes)
    (nodes : List Node) (outer : Place) (start : Nat) :
    mapAttrsFrom rule' outer start (mapAttrsFrom rule outer start nodes) =
      mapAttrsFrom (fun place attrs => rule' place (rule place attrs)) outer start nodes := by
  induction nodes using forest_induction generalizing outer start with
  | nil => rfl
  | text kind content rest ih =>
    simp only [mapAttrsFrom, Node.mapAttrs]
    rw [ih]
  | element t a children rest ihChildren ihRest =>
    simp only [mapAttrsFrom, Node.mapAttrs]
    rw [ihChildren, ihRest]

/-- The rule that changes nothing. -/
theorem mapAttrsFrom_same (nodes : List Node) (outer : Place) (start : Nat) :
    mapAttrsFrom (fun _ attrs => attrs) outer start nodes = nodes := by
  induction nodes using forest_induction generalizing outer start with
  | nil => rfl
  | text kind content rest ih =>
    simp only [mapAttrsFrom, Node.mapAttrs]
    rw [ih]
  | element t a children rest ihChildren ihRest =>
    simp only [mapAttrsFrom, Node.mapAttrs]
    rw [ihChildren, ihRest]

end Rows

namespace Page

variable {page : Page} {rule rule' : Place → Attributes → Attributes}

/-- No element of the page has the attribute. -/
def Lacks (name : String) (page : Page) : Prop := ∀ s ∈ page.elements, s.attrs.has name = false

instance (name : String) (page : Page) : Decidable (page.Lacks name) :=
  inferInstanceAs (Decidable (∀ s ∈ page.elements, s.attrs.has name = false))

/-- The elements of the changed page are in the places of the old ones, with changed attributes. -/
theorem entries_mapAttrs (rule : Place → Attributes → Attributes) (page : Page) :
    (page.mapAttrs rule).elements.map Spot.entry =
      page.elements.map fun s => (s.place, rule s.place s.attrs) :=
  @entries_mapAttrsFrom rule page.nodes _ _ _ _ .document .document [] [] rfl rfl

/-- An element of the changed page stands where one of the old page stood. -/
theorem exists_of_mem_mapAttrs {s : Spot} (hs : s ∈ (page.mapAttrs rule).elements) :
    ∃ t ∈ page.elements, t.place = s.place ∧ s.attrs = rule t.place t.attrs := by
  have hEntry : s.entry ∈ (page.mapAttrs rule).elements.map Spot.entry := List.mem_map_of_mem hs
  rw [entries_mapAttrs, List.mem_map] at hEntry
  obtain ⟨t, ht, hSame⟩ := hEntry
  obtain ⟨hPlace, hAttrs⟩ := Prod.mk.inj hSame
  exact ⟨t, ht, hPlace, hAttrs.symm⟩

/-- Each element of the old page has its place taken by one of the changed page. -/
theorem exists_mem_mapAttrs {t : Spot} (ht : t ∈ page.elements)
    (rule : Place → Attributes → Attributes) :
    ∃ s ∈ (page.mapAttrs rule).elements, s.place = t.place ∧ s.attrs = rule t.place t.attrs := by
  have hEntry : (t.place, rule t.place t.attrs) ∈ (page.mapAttrs rule).elements.map Spot.entry := by
    rw [entries_mapAttrs]
    exact List.mem_map_of_mem ht
  obtain ⟨s, hs, hSame⟩ := List.mem_map.mp hEntry
  obtain ⟨hPlace, hAttrs⟩ := Prod.mk.inj hSame
  exact ⟨s, hs, hPlace, hAttrs⟩

/-- Two rules one after the other are one rule. -/
theorem mapAttrs_mapAttrs (rule rule' : Place → Attributes → Attributes) (page : Page) :
    (page.mapAttrs rule).mapAttrs rule' =
      page.mapAttrs fun place attrs => rule' place (rule place attrs) :=
  congrArg (fun nodes => { page with nodes }) (mapAttrsFrom_mapAttrsFrom rule rule' _ _ _)

/-- Rules that agree on the elements of a page change it alike. -/
theorem mapAttrs_congr
    (h : ∀ s ∈ page.elements, rule s.place s.attrs = rule' s.place s.attrs) :
    page.mapAttrs rule = page.mapAttrs rule' :=
  congrArg (fun nodes => { page with nodes })
    (@mapAttrsFrom_congr rule rule' page.nodes _ _ .document [] h)

/-- A page on whose elements the rule changes nothing. -/
theorem mapAttrs_eq_self (h : ∀ s ∈ page.elements, rule s.place s.attrs = s.attrs) :
    page.mapAttrs rule = page :=
  calc page.mapAttrs rule = page.mapAttrs fun _ attrs => attrs := mapAttrs_congr h
    _ = page := congrArg (fun nodes => { page with nodes }) (mapAttrsFrom_same _ _ _)

end Page
end StableLocator
