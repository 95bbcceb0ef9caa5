import StableLocator.Proofs.Page.Pieces

/-!
# What shows on a stamped page

On a page where every element has a stamp, an element is visible just if it does not hide itself; what is
around it has no say. The visible text is still gathered on the way down, where a hidden element takes
with it what is below it. So the text of a visible element is missing from that of a visible element
around it if something between the two is hidden.

* `Spot.showsIn` — neither the element nor anything around it, up to the top, is hidden;
* `visibleText_stamped` — the visible text consists of what shows up to the top; it consists of what is
  visible where no visible element stands in a hidden one.
-/

namespace StableLocator

namespace Spot

variable {s : Spot}

/-- Neither the element nor an element around it below the top is hidden. -/
def showsIn (top p : Spot) : Bool := (p :: p.ancestors).all fun a => !top.isAround a || a.isVisible

/-- An element with a stamp is visible just if it does not hide itself. -/
theorem isVisible_of_stamped (hElement : s.isDocument = false)
    (hStamp : s.attrs.has Visibility.stampName = true) : s.isVisible = !s.hidesSelf := by
  rcases Option.isSome_iff_exists.mp hStamp with ⟨value, hValue⟩
  have hText : s.attrs.text? Visibility.stampName = some value.text := by
    rw [Attributes.text?, hValue, Option.map_some]
  simp [isVisible, hidesSelf, Visibility.hidesSelf, attr?, hText, hElement]

end Spot

section Stamped

variable {page : Page} {s : Spot}

/-- What an element shows below the top is handed down by the stamps. -/
theorem handsDown_showsIn (hStamps : ∀ a ∈ page.elements, a.attrs.has Visibility.stampName = true)
    (hs : s ∈ page.elements) : s.HandsDown s.showsIn := by
  intro p hp c hc
  have hPage : p ∈ page.elements := (Spot.descendants_infix hs).subset hp
  have hBelow : c ∈ s.descendants := Spot.mem_descendants_of_mem_children hp hc
  have hChild : c ∈ page.elements := Page.mem_elements_of_mem_descendants hs hBelow
  have hAround : c.ancestors = p :: p.ancestors :=
    Spot.ancestors_of_mem_children (Spot.isDocument_eq_false_of_mem hPage) hc
  have hInside : s.isAround c = true := (Page.isAround_iff hs hChild).mpr hBelow
  have hVisible : c.isVisible = !c.hidesSelf :=
    Spot.isVisible_of_stamped (Spot.isDocument_eq_false_of_mem hChild) (hStamps c hChild)
  rw [Spot.showsIn, List.all_cons, hInside, hVisible, hAround, Spot.showsIn, Bool.not_true,
    Bool.false_or, Bool.and_comm]

/-- An element shows up to a visible top if it is visible and what is around it below the top is. -/
theorem showsIn_iff (hs : s ∈ page.elements) (hVisible : s.isVisible = true) {p : Spot}
    (hp : p ∈ s :: s.descendants) :
    s.showsIn p = true ↔
      p.isVisible = true ∧ ∀ a ∈ p.ancestors, a ∈ s.descendants → a.isVisible = true := by
  have hPage : p ∈ page.elements := (Spot.descendants_infix hs).subset hp
  have hOuter : ∀ a ∈ p.ancestors, s.isAround a = true ↔ a ∈ s.descendants := fun a ha =>
    Page.isAround_iff hs (Page.mem_elements_of_mem_ancestors hPage ha)
  have hSelf : (!s.isAround p || p.isVisible) = true ↔ p.isVisible = true := by
    rcases List.mem_cons.mp hp with rfl | hBelow
    · simp [hVisible]
    · simp [(Page.isAround_iff hs hPage).mpr hBelow]
  rw [Spot.showsIn, List.all_cons, Bool.and_eq_true, hSelf, List.all_eq_true]
  refine and_congr_right fun _ => forall₂_congr fun a ha => ?_
  rw [← hOuter a ha]
  cases s.isAround a <;> simp

/-- The top itself shows if it is visible: nothing is both around it and below it. -/
theorem showsIn_self (hs : s ∈ page.elements) (hVisible : s.isVisible = true) :
    s.showsIn s = true := by
  apply (showsIn_iff hs hVisible List.mem_cons_self).mpr
  refine ⟨hVisible, ?_⟩
  intro a ha hBelow
  rw [Spot.ancestors, List.mem_filter, Spot.mem_enclosing_iff_mem_descendants] at ha
  exact absurd rfl (Spot.place_ne_of_mem (Spot.mem_descendants_trans hBelow ha.1))

/-- On a page where every element has a stamp, the visible text of a visible element consists, in the
order of the source and with white space collapsed, of the running texts of those elements among it and
those below it that are visible and have none but visible elements around them below the top, and of a
space at either end of each such block. These are the visible elements, all of them, where no visible
element stands in a hidden one. -/
theorem visibleText_stamped (hStamps : ∀ a ∈ page.elements, a.attrs.has Visibility.stampName = true)
    (hs : s ∈ page.elements) (hVisible : s.isVisible = true) :
    s.visibleText = Text.collapse (s.textSeen s.showsIn) ∧
      (∀ p kind content, .text p kind content ∈ s.pieces ↔
        p ∈ s :: s.descendants ∧ .text kind content ∈ p.nodes) ∧
      (∀ p ∈ s :: s.descendants, s.showsIn p = true ↔
        p.isVisible = true ∧ ∀ a ∈ p.ancestors, a ∈ s.descendants → a.isVisible = true) ∧
      ((∀ p ∈ s.descendants, p.isVisible = true → s.showsIn p = true) →
        s.visibleText = Text.collapse (s.textSeen Spot.isVisible)) := by
  have hIff : ∀ p ∈ s :: s.descendants, s.showsIn p = true ↔
      p.isVisible = true ∧ ∀ a ∈ p.ancestors, a ∈ s.descendants → a.isVisible = true :=
    fun p hp => showsIn_iff hs hVisible hp
  -- A stamp tells all, so that below a shown element only stamps decide.
  have hDown : s.HandsDown s.showsIn := handsDown_showsIn hStamps hs
  refine ⟨?_, fun _ _ _ => Spot.text_mem_pieces_iff, hIff, ?_⟩
  · exact hDown.visibleText_eq (showsIn_self hs hVisible) hVisible
  · intro hNested
    have hSame : ∀ p ∈ s :: s.descendants, p.isVisible = s.showsIn p := by
      intro p hp
      rw [Bool.eq_iff_iff]
      constructor
      · intro hShown
        rcases List.mem_cons.mp hp with rfl | hBelow
        · exact showsIn_self hs hVisible
        · exact hNested p hBelow hShown
      · intro hShows
        exact ((hIff p hp).mp hShows).1
    exact (hDown.congr hSame).visibleText_eq hVisible hVisible

end Stamped

/-- A page as a browser stamps it: a button with a hidden part, and in this a part that shows again. -/
def stampedButton : Page where
  nodes :=
    [.element "html" shown
      [.element "head" hidden [],
        .element "body" shown
          [.element "button" shown
            [.text .plain "Save",
              .element "span" hidden [.text .plain " no", .element "b" shown [.text .plain " all"]],
              .element "i" shown [.text .plain " now"]]]]]
where
  /-- The stamp of what shows. -/
  shown : Attributes := [(Visibility.stampName, .single "false")]
  /-- The stamp of what does not show. -/
  hidden : Attributes := [(Visibility.stampName, .single "true")]

/-- The button is read as what shows up to it; the visible part in the hidden part does not. -/
theorem visibleText_stamped_stampedButton :
    (∀ a ∈ stampedButton.elements, a.attrs.has Visibility.stampName = true) ∧
      ∃ s ∈ stampedButton.elements, s.isVisible = true ∧
        s.textSeen s.showsIn = "Save now" ∧ s.visibleText = "Save now" ∧
        ∃ p ∈ s.descendants, p.isVisible = true ∧
          ¬∀ a ∈ p.ancestors, a ∈ s.descendants → a.isVisible = true := by
  have hStamps : ∀ a ∈ stampedButton.elements, a.attrs.has Visibility.stampName = true := by decide
  have hButton : ∃ s ∈ stampedButton.elements, s.isVisible = true ∧
      s.textSeen s.showsIn = "Save now" ∧
      ∃ p ∈ s.descendants, p.isVisible = true ∧ s.showsIn p = false := by decide +kernel
  rcases hButton with ⟨s, hs, hVisible, hSeen, p, hp, hShown, hScreened⟩
  rcases visibleText_stamped hStamps hs hVisible with ⟨hText, _, hIff, _⟩
  refine ⟨hStamps, s, hs, hVisible, hSeen, ?_, p, hp, hShown, ?_⟩
  · rw [hText, hSeen]
    decide +kernel
  · intro hAround
    rw [(hIff p (List.mem_cons_of_mem s hp)).mpr ⟨hShown, hAround⟩] at hScreened
    cases hScreened

/-- Every element has a stamp, the button and the bold part in it are visible, and yet the text of the
bold part is missing from the visible text of the button. -/
theorem visibleText_stampedButton_omits :
    (∀ a ∈ stampedButton.elements, a.attr? Visibility.stampName = some "true" ∨
        a.attr? Visibility.stampName = some "false") ∧
      ∃ s ∈ stampedButton.elements, s.isVisible = true ∧
        (∃ p ∈ s.descendants, p.isVisible = true ∧ p.nodes = [.text .plain " all"]) ∧
        s.visibleText = "Save now" ∧
        Text.collapse (s.textSeen Spot.isVisible) = "Save all now" := by
  refine ⟨by decide, _, .tail _ (.tail _ (.tail _ (.head _))), ?_, ?_, ?_, ?_⟩
  · decide +kernel
  · exact ⟨_, .tail _ (.head _), by decide +kernel, rfl⟩
  · decide +kernel
  · decide +kernel

end StableLocator
