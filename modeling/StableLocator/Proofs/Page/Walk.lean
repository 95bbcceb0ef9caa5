import Mathlib.Data.List.Nodup
import StableLocator.Page.Spot

/-!
# Walks among spots

The children of a spot, the spots below it and the spots around it are enumerated by different
recursions over nodes and contexts. This file ties them together:

* `Spot.Below s t` — “`t` is reached from `s` by steps to children”, with
  `Spot.mem_descendants_iff` and `Spot.mem_enclosing_iff` for the two enumerators;
* `Spot.parent?_eq_some_iff` — the parent is the spot of which one is a child;
* `Spot.induct` — induction from the children of a spot to the spot;
* `Spot.descendants_infix` — a spot and all below it stand together in document order.
-/

namespace StableLocator

/-! ## Rows -/

/-- A spot of a row is an element with the nodes of the row on either side of it. -/
theorem mem_rowSpots_iff {tag : String} {attrs : Attributes} {outer : Context}
    {left nodes : List Node} {c : Spot} :
    c ∈ rowSpots tag attrs outer left nodes ↔
      ∃ before after, nodes = before ++ c.node :: after ∧
        c.context = .inside tag attrs (before.reverse ++ left) after outer := by
  constructor
  · -- Each node that is passed goes over to the left of the row.
    intro h
    induction nodes generalizing left with
    | nil => simp [rowSpots] at h
    | cons node rest ih =>
      cases node with
      | text kind content =>
        rw [rowSpots] at h
        obtain ⟨before, after, hNodes, hContext⟩ := ih h
        exact ⟨.text kind content :: before, after, by simp [hNodes], by simp [hContext]⟩
      | element t a cs =>
        rw [rowSpots, List.mem_cons] at h
        rcases h with rfl | h
        · exact ⟨[], rest, by simp [Spot.node], by simp⟩
        · obtain ⟨before, after, hNodes, hContext⟩ := ih h
          exact ⟨.element t a cs :: before, after, by simp [hNodes], by simp [hContext]⟩
  · -- Back again along the nodes that stand before the element.
    rintro ⟨before, after, rfl, hContext⟩
    induction before generalizing left with
    | nil =>
      rw [List.nil_append, Spot.node, rowSpots, List.mem_cons]
      left
      simp only [List.reverse_nil, List.nil_append] at hContext
      rw [← hContext]
    | cons node before ih =>
      have hRest := @ih (node :: left) (by simpa using hContext)
      cases node with
      | text kind content => simpa [rowSpots] using hRest
      | element t a cs => exact List.mem_cons_of_mem _ hRest

/-- The elements of a row and below it are each element of the row with those below it. -/
theorem rowTreeSpots_eq_flatMap (tag : String) (attrs : Attributes) (outer : Context)
    (left nodes : List Node) :
    rowTreeSpots tag attrs outer left nodes =
      (rowSpots tag attrs outer left nodes).flatMap fun c => c :: c.descendants := by
  induction nodes generalizing left with
  | nil => simp [rowTreeSpots, rowSpots]
  | cons node rest ih =>
    cases node with
    | text kind content => simp [rowTreeSpots, rowSpots, Node.spots, ih]
    | element t a cs => simp [rowTreeSpots, rowSpots, Node.spots, Spot.descendants, ih]

/-- The elements before a spot in its row, from left to right, come before it among the elements of
the whole row, and those after it follow. -/
theorem rowSpots_reverse_append (tag : String) (attrs : Attributes) (outer : Context)
    (left right : List Node) :
    rowSpots tag attrs outer [] (left.reverse ++ right) =
      (rowSpotsBack tag attrs outer right left).reverse ++
        rowSpots tag attrs outer left right := by
  -- The node next to the spot moves to the right of it.
  induction left generalizing right with
  | nil => simp [rowSpotsBack]
  | cons node left ih =>
    have step := ih (node :: right)
    rw [List.reverse_cons, List.append_assoc, List.singleton_append, step]
    cases node with
    | text kind content => simp [rowSpotsBack, rowSpots]
    | element t a cs => simp [rowSpotsBack, rowSpots]

namespace Spot

/-! ## Children and parents -/

/-- A child is an element among the nodes of its parent, with the others around it. -/
theorem mem_children_iff {s c : Spot} :
    c ∈ s.children ↔ ∃ before after, s.nodes = before ++ c.node :: after ∧
      c.context = .inside s.tag s.attrs before.reverse after s.context := by
  simp [children, mem_rowSpots_iff]

/-- The elements below are the children, each with those below it. -/
theorem descendants_eq_flatMap (s : Spot) :
    s.descendants = s.children.flatMap fun c => c :: c.descendants :=
  rowTreeSpots_eq_flatMap ..

/-- The parent of a spot is the spot of which it is a child. -/
theorem parent?_eq_some_iff {c s : Spot} : c.parent? = some s ↔ c ∈ s.children := by
  rw [mem_children_iff]
  constructor
  · intro h
    -- The context keeps the left side of the row in reverse.
    unfold parent? at h
    split at h
    · rename_i tag attrs left right outer hContext
      simp only [Option.some.injEq] at h
      subst h
      exact ⟨left.reverse, right, by simp [List.reverseAux_eq], by simp [hContext]⟩
    · simp at h
  · rintro ⟨before, after, hNodes, hContext⟩
    unfold parent?
    rw [hContext]
    simp [List.reverseAux_eq, ← hNodes]

/-- The children of the parent are the spots before this one, this one and those after it. -/
theorem children_of_parent? {c s : Spot} (h : c.parent? = some s) :
    s.children = c.earlier.reverse ++ c :: c.later := by
  unfold parent? at h
  split at h
  · rename_i tag attrs left right outer hContext
    simp only [Option.some.injEq] at h
    have hCurrent : c = ⟨c.tag, c.attrs, c.nodes, .inside tag attrs left right outer⟩ := by
      rw [← hContext]
    rw [← h, children, earlier, later, hContext]
    simp only [List.reverseAux_eq, rowSpots_reverse_append]
    rw [node, rowSpots, ← hCurrent]
  · simp at h

/-! ## Below and around -/

/-- `Below s t` means that steps to children lead from `s` to `t`. -/
inductive Below (s : Spot) : Spot → Prop
  | child {c : Spot} : c ∈ s.children → Below s c
  | deeper {t c : Spot} : Below s t → c ∈ t.children → Below s c

namespace Below

variable {s t u : Spot}

theorem trans (h₁ : Below s t) (h₂ : Below t u) : Below s u := by
  induction h₂ with
  | child hc => exact .deeper h₁ hc
  | deeper _ hc ih => exact .deeper ih hc

/-- The first step of a walk down. -/
theorem first (h : Below s t) : ∃ c ∈ s.children, t = c ∨ Below c t := by
  induction h with
  | child hc => exact ⟨_, hc, Or.inl rfl⟩
  | deeper _ hu ih =>
    obtain ⟨c, hc, rfl | hBelow⟩ := ih
    · exact ⟨_, hc, Or.inr (.child hu)⟩
    · exact ⟨c, hc, Or.inr (.deeper hBelow hu)⟩

end Below

/-- A property that passes from the children of each spot to the spot holds of all spots. -/
theorem induct {motive : Spot → Prop}
    (step : ∀ s : Spot, (∀ c ∈ s.children, motive c) → motive s) : ∀ s, motive s := by
  -- The row is taken in every place, since the context of a child differs from that of its parent.
  have rows : ∀ nodes : List Node, ∀ tag attrs outer left,
      ∀ c ∈ rowSpots tag attrs outer left nodes, motive c := by
    intro nodes
    induction nodes using forest_induction with
    | nil =>
      intro tag attrs outer left c hc
      simp [rowSpots] at hc
    | text kind content rest ih =>
      intro tag attrs outer left c hc
      exact ih tag attrs outer (.text kind content :: left) c hc
    | element t a children rest ihChildren ihRest =>
      intro tag attrs outer left c hc
      rw [rowSpots, List.mem_cons] at hc
      rcases hc with rfl | hc
      · exact step _ fun d hd => ihChildren t a _ [] d hd
      · exact ihRest tag attrs outer (.element t a children :: left) c hc
  intro s
  exact step s fun c hc => rows s.nodes s.tag s.attrs s.context [] c hc

/-- The enumeration of the spots inside a spot lists those below it. -/
theorem mem_descendants_iff {s t : Spot} : t ∈ s.descendants ↔ Below s t := by
  induction s using induct with
  | step s ih =>
    rw [descendants_eq_flatMap, List.mem_flatMap]
    constructor
    · rintro ⟨c, hc, ht⟩
      rcases List.mem_cons.1 ht with rfl | ht
      · exact .child hc
      · exact Below.trans (.child hc) ((ih c hc).1 ht)
    · intro h
      obtain ⟨c, hc, rfl | hBelow⟩ := h.first
      · exact ⟨t, hc, List.mem_cons_self⟩
      · exact ⟨c, hc, List.mem_cons_of_mem _ ((ih c hc).2 hBelow)⟩

/-- What is below something below is below. -/
theorem mem_descendants_trans {s t u : Spot} (h₁ : t ∈ s.descendants) (h₂ : u ∈ t.descendants) :
    u ∈ s.descendants := by
  rw [mem_descendants_iff] at h₁ h₂ ⊢
  exact h₁.trans h₂

theorem mem_descendants_of_mem_children {s p c : Spot} (hp : p ∈ s :: s.descendants)
    (hc : c ∈ p.children) : c ∈ s.descendants := by
  rw [mem_descendants_iff]
  rcases List.mem_cons.mp hp with rfl | hBelow
  · exact .child hc
  · exact .deeper (mem_descendants_iff.mp hBelow) hc

theorem isDocument_eq_false_of_parent? {c s : Spot} (h : c.parent? = some s) :
    c.isDocument = false := by
  unfold parent? at h
  unfold isDocument
  split at h
  · rename_i hContext
    rw [hContext]
  · cases h

/-- Only the top of a tree is a page. -/
theorem isDocument_eq_false_of_mem {c s : Spot} (h : c ∈ s.descendants) :
    c.isDocument = false := by
  rw [mem_descendants_iff] at h
  cases h with
  | child hc => exact isDocument_eq_false_of_parent? (parent?_eq_some_iff.mpr hc)
  | deeper _ hc => exact isDocument_eq_false_of_parent? (parent?_eq_some_iff.mpr hc)

/-- Around a child is its parent, and what is around the parent. -/
theorem enclosing_of_parent? {c s : Spot} (h : c.parent? = some s) :
    c.enclosing = s :: s.enclosing := by
  unfold parent? at h
  split at h
  · rename_i tag attrs left right outer hContext
    simp only [Option.some.injEq] at h
    rw [enclosing, hContext, enclosingIn, ← h, enclosing]
  · simp at h

theorem enclosing_of_parent?_eq_none {c : Spot} (h : c.parent? = none) : c.enclosing = [] := by
  unfold parent? at h
  split at h
  · simp at h
  · rename_i hContext
    unfold enclosing enclosingIn
    split
    · rename_i tag attrs left right outer hInside
      exact absurd hInside (hContext tag attrs left right outer)
    · rfl

/-- A child has the outermost spot of its parent. -/
theorem outermost_of_parent? {c s : Spot} (h : c.parent? = some s) : c.outermost = s.outermost := by
  rw [outermost, enclosing_of_parent? h, List.getLast?_cons, Option.getD_some, outermost]

/-- The top of a tree is the outermost spot of all below it. -/
theorem outermost_of_mem {top s : Spot} (hTop : top.parent? = none)
    (h : s ∈ top :: top.descendants) : s.outermost = top := by
  have hSelf : top.outermost = top := by
    rw [outermost, enclosing_of_parent?_eq_none hTop, List.getLast?_nil, Option.getD_none]
  rcases List.mem_cons.mp h with rfl | hBelow
  · exact hSelf
  · rw [mem_descendants_iff] at hBelow
    induction hBelow with
    | child hc => rw [outermost_of_parent? (parent?_eq_some_iff.mpr hc), hSelf]
    | deeper hOuter hc ih =>
      rw [outermost_of_parent? (parent?_eq_some_iff.mpr hc)]
      exact ih (List.mem_cons_of_mem top (mem_descendants_iff.mpr hOuter))

theorem parent?_of_parentElement? {c s : Spot} (h : c.parentElement? = some s) :
    c.parent? = some s :=
  (Option.filter_eq_some_iff.1 h).1

theorem parentElement?_of_mem_children {c s : Spot} (hs : s.isDocument = false)
    (h : c ∈ s.children) : c.parentElement? = some s := by
  rw [parentElement?, parent?_eq_some_iff.mpr h]
  simp [hs]

/-- The elements around a spot are the one directly around it and those around that one. -/
theorem ancestors_of_parentElement? {c s : Spot} (h : c.parentElement? = some s) :
    c.ancestors = s :: s.ancestors := by
  obtain ⟨hParent, hElement⟩ := Option.filter_eq_some_iff.1 h
  rw [ancestors, enclosing_of_parent? hParent, List.filter_cons, if_pos hElement, ancestors]

/-- Around a child of an element is the element, and what is around it. -/
theorem ancestors_of_mem_children {c s : Spot} (hs : s.isDocument = false) (h : c ∈ s.children) :
    c.ancestors = s :: s.ancestors :=
  ancestors_of_parentElement? (parentElement?_of_mem_children hs h)

/-- Nothing is around an element without a parent. -/
theorem ancestors_of_parentElement?_eq_none {c : Spot} (h : c.parentElement? = none) :
    c.ancestors = [] := by
  rw [ancestors]
  cases hParent : c.parent? with
  | none => rw [enclosing_of_parent?_eq_none hParent, List.filter_nil]
  | some s =>
    -- A parent that is no element is the document, around which there is nothing.
    have hDocument : s.isDocument = true := by simpa [parentElement?, hParent] using h
    have hNone : s.parent? = none := by
      unfold isDocument at hDocument
      unfold parent?
      split at hDocument
      · rename_i hContext
        rw [hContext]
      · cases hDocument
    rw [enclosing_of_parent? hParent, enclosing_of_parent?_eq_none hNone]
    simp [hDocument]

/-- The enumeration of the spots around a spot lists those that it is below. -/
theorem mem_enclosing_iff {s t : Spot} : s ∈ t.enclosing ↔ Below s t := by
  constructor
  · -- By the context of the inner spot, that of its parent being the outer part of it.
    intro h
    induction hContext : t.context generalizing t with
    | inside tag attrs left right outer ih =>
      obtain ⟨p, hParent⟩ : ∃ p, t.parent? = some p := by simp [parent?, hContext]
      have hChild : t ∈ p.children := parent?_eq_some_iff.1 hParent
      have hOuter : p.context = outer := by
        obtain ⟨_, _, _, hInside⟩ := mem_children_iff.1 hChild
        rw [hContext] at hInside
        injection hInside with _ _ _ _ hOuter
        exact hOuter.symm
      rw [enclosing_of_parent? hParent, List.mem_cons] at h
      rcases h with rfl | h
      · exact .child hChild
      · exact .deeper (ih h hOuter) hChild
    | _ => simp [enclosing, enclosingIn, hContext] at h
  · intro h
    induction h with
    | child hc =>
      rw [enclosing_of_parent? (parent?_eq_some_iff.2 hc)]
      exact List.mem_cons_self
    | deeper _ hc ih =>
      rw [enclosing_of_parent? (parent?_eq_some_iff.2 hc)]
      exact List.mem_cons_of_mem _ ih

/-- One spot is around another if and only if the other is below it. -/
theorem mem_enclosing_iff_mem_descendants {s t : Spot} :
    s ∈ t.enclosing ↔ t ∈ s.descendants := by
  rw [mem_enclosing_iff, mem_descendants_iff]

/-! ## Document order -/

/-- A spot that stands in an enumeration is followed there by the spots below it. -/
theorem descendants_infix {s t : Spot} (h : t ∈ s.descendants) :
    t :: t.descendants <:+: s.descendants := by
  induction s using induct with
  | step s ih =>
    rw [descendants_eq_flatMap, List.mem_flatMap] at h
    obtain ⟨c, hc, ht⟩ := h
    -- Either the spot is the child of the walk itself, or it stands among what is below the child.
    have inner : t :: t.descendants <:+: c :: c.descendants := by
      rcases List.mem_cons.1 ht with rfl | ht
      · exact List.infix_refl _
      · exact (ih c hc ht).trans (List.suffix_cons c _).isInfix
    obtain ⟨before, after, hSplit⟩ := List.append_of_mem hc
    rw [descendants_eq_flatMap s, hSplit]
    rw [List.flatMap_append, List.flatMap_cons]
    exact inner.trans (List.infix_append' _ _ _)

end Spot
end StableLocator
