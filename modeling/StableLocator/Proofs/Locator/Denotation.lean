import StableLocator.Proofs.Locator.Path
import Mathlib.Data.List.Forall2

/-!
# What structural paths select

A path without an id selects the elements that resemble its element at each level: their tag is the
same, they have the stable classes, and where the segment gives a position they have it among the
elements of their tag. Other classes do not matter, so the path may select more than its element.

* `matchesUp_append` — a chain of segments holds along the way up, one segment for each spot;
* `Resembles` and `holds_asSegment_iff` — what a segment asks for;
* `mem_select?_framePath_iff` — what the path of an element selects.
-/

namespace StableLocator

open Selector (Segment)

/-! ## Chains along the way up -/

/-- Segments hold along the way up if each holds at one spot, from the first on, and those behind them
hold from the next spot on. -/
theorem Selector.matchesUp_append {segments outer : List Segment} {x : Spot} :
    matchesUp (segments ++ outer) x ↔
      ∃ inner rest, x :: x.enclosing = inner ++ rest ∧ List.Forall₂ Segment.holds segments inner ∧
        (outer = [] ∨ ∃ y, rest.head? = some y ∧ matchesUp outer y) := by
  induction segments generalizing x with
  | nil =>
    constructor
    · intro h
      exact ⟨[], x :: x.enclosing, rfl, .nil, .inr ⟨x, rfl, h⟩⟩
    · rintro ⟨inner, rest, hSplit, hHolds, hOuter⟩
      cases hHolds
      rcases hOuter with rfl | ⟨y, hHead, hOuter⟩
      · trivial
      · rw [← List.nil_append rest, ← hSplit] at hHead
        cases hHead
        exact hOuter
  | cons segment segments ih =>
    rw [List.cons_append, matchesUp_cons]
    constructor
    · rintro ⟨hFirst, hRest⟩
      rcases hRest with hNone | ⟨p, hParent, hRest⟩
      · obtain ⟨rfl, rfl⟩ := List.append_eq_nil_iff.mp hNone
        exact ⟨[x], x.enclosing, rfl, .cons hFirst .nil, .inl rfl⟩
      · obtain ⟨inner, rest, hSplit, hHolds, hOuter⟩ := ih.mp hRest
        refine ⟨x :: inner, rest, ?_, .cons hFirst hHolds, hOuter⟩
        rw [Spot.enclosing_of_parent? hParent, hSplit, List.cons_append]
    · rintro ⟨inner, rest, hSplit, hHolds, hOuter⟩
      cases hHolds with
      | cons hFirst hHolds =>
        obtain ⟨rfl, hEnclosing⟩ := List.cons.inj hSplit
        refine ⟨hFirst, ?_⟩
        cases hParent : x.parent? with
        | some p =>
          rw [Spot.enclosing_of_parent? hParent] at hEnclosing
          exact .inr ⟨p, rfl, ih.mpr ⟨_, rest, hEnclosing, hHolds, hOuter⟩⟩
        | none =>
          -- Nothing is around the spot, so no segment is left.
          rw [Spot.enclosing_of_parent?_eq_none hParent] at hEnclosing
          obtain ⟨rfl, rfl⟩ := List.append_eq_nil_iff.mp hEnclosing.symm
          cases hHolds
          rcases hOuter with rfl | ⟨y, hHead, _⟩
          · exact .inl rfl
          · cases hHead

namespace Spot

variable {s m n p : Spot}

/-! ## Resemblance -/

/-- Another child of the parent has the same tag and the same stable classes. -/
def SharesSignature (s : Spot) : Prop :=
  ∃ p, s.parentElement? = some p ∧ 2 ≤ p.children.countP fun t => t.signature = s.signature

/-- The number of the element among the elements of its tag with its parent. -/
def typePosition (s : Spot) : Nat := (s.earlier.filter fun t => t.name == s.name).length + 1

/-- An element has what the segment of another asks for: the tag, the stable classes, and the
position where the other one shares its signature. -/
structure Resembles (m n : Spot) : Prop where
  name : m.name = n.name
  classes : ∀ token ∈ n.stableClasses, token ∈ m.classTokens
  position : n.SharesSignature → m.typePosition = n.typePosition

/-- An element resembles itself. -/
theorem Resembles.refl (hTidy : s.attrs.Tidy) : s.Resembles s where
  name := rfl
  classes := fun _ hToken => (mem_classTokens_of_stable hTidy hToken).1
  position := fun _ => rfl

/-- Counting within a type from the front sees the earlier elements of the tag. -/
theorem counted_eq (s : Spot) :
    Selector.counted false true s = s.earlier.filter fun t => t.name == s.name := by
  simp [Selector.counted]

/-- A segment has a position just where its element shares its signature. -/
theorem position?_asSegment (h : s.Plain) {k : Nat} :
    k ∈ s.asSegment.position? ↔ s.SharesSignature ∧ k = s.typePosition := by
  have hPosition {p : Spot} (hp : s.parentElement? = some p) :
      s.positionIn p.children = s.typePosition := by
    rw [positionIn_children (parent?_of_parentElement? hp) h.tagSelector_eq, counted_eq, typePosition]
  rw [asSegment, Option.mem_def, Option.bind_eq_some_iff]
  constructor
  · rintro ⟨p, hp, hk⟩
    split at hk
    · cases hk
    · rename_i hShared
      rw [hPosition hp] at hk
      exact ⟨⟨p, hp, Nat.not_lt.mp hShared⟩, (Option.some.inj hk).symm⟩
  · rintro ⟨⟨p, hp, hShared⟩, rfl⟩
    exact ⟨p, hp, by rw [if_neg (Nat.not_lt.mpr hShared), hPosition hp]⟩

/-- The segment of an element holds just at what resembles it. -/
theorem holds_asSegment_iff (hn : n.Plain) (hm : m.attrs.Tidy) :
    n.asSegment.holds m ↔ m.Resembles n := by
  have hTag : Text.lowerAscii n.asSegment.tag = n.name := by
    have hSame : n.asSegment.tag = n.name := hn.tagSelector_eq
    rw [hSame]
    exact Text.lowerAscii_eq_self (Text.noCapitals_lower n.tag)
  rw [Segment.holds, hTag, Selector.classTokens_of_tidy hm, counted_eq, ← typePosition]
  constructor
  · rintro ⟨hName, hClasses, hPosition⟩
    exact ⟨hName.symm, hClasses, fun hShared =>
      hPosition _ ((position?_asSegment hn).mpr ⟨hShared, rfl⟩)⟩
  · rintro ⟨hName, hClasses, hPosition⟩
    refine ⟨hName.symm, hClasses, fun k hk => ?_⟩
    obtain ⟨hShared, rfl⟩ := (position?_asSegment hn).mp hk
    exact hPosition hShared

theorem holds_tagSegment_body : (tagSegment "body").holds m ↔ m.name = "body" := by
  have hLower : Text.lowerAscii "body" = "body" := by decide
  simp [Segment.holds, tagSegment, hLower, eq_comm]

/-- Spots hold the segments of a path just if they resemble its elements one by one. -/
theorem forall₂_holds_iff {steps spots : List Spot} (hSteps : ∀ n ∈ steps, n.Plain)
    (hSpots : ∀ m ∈ spots, m.attrs.Tidy) :
    List.Forall₂ Segment.holds (steps.map asSegment) spots ↔
      List.Forall₂ (fun n m => m.Resembles n) steps spots := by
  rw [List.forall₂_map_left_iff]
  induction steps generalizing spots with
  | nil => rw [List.forall₂_nil_left_iff, List.forall₂_nil_left_iff]
  | cons n steps ih =>
    cases spots with
    | nil => simp
    | cons m spots =>
      obtain ⟨hn, hSteps⟩ := List.forall_mem_cons.mp hSteps
      obtain ⟨hm, hSpots⟩ := List.forall_mem_cons.mp hSpots
      rw [List.forall₂_cons, List.forall₂_cons, holds_asSegment_iff hn hm, ih hSteps hSpots]

/-! ## Selecting -/

end Spot

/-- What is around an element of a tidy page has tidy attributes, the page included. -/
theorem Page.Tidy.enclosing {page : Page} (h : page.Tidy) {m : Spot} (hm : m ∈ page.elements) :
    ∀ a ∈ m :: m.enclosing, a.attrs.Tidy := by
  intro a ha
  rcases List.mem_cons.mp ha with rfl | ha
  · exact h a hm
  · rcases Spot.mem_enclosing_of_below (Spot.mem_descendants_iff.mp hm) ha with rfl | ha | ha
    · exact ⟨fun _ hAttr => absurd hAttr List.not_mem_nil,
        fun _ hAttr => absurd hAttr List.not_mem_nil⟩
    · exact h a (Spot.mem_descendants_iff.mpr ha)
    · rw [Page.root_enclosing] at ha
      cases ha

namespace Spot

/-- The path of an element selects, in document order, the elements that resemble it at each level
below the page frame, and below a `body` if the frame is one. A path that no selector can hold selects
nothing. -/
theorem mem_select?_framePath_iff {page : Page} (hTidy : page.Tidy) {s : Spot}
    (hs : s ∈ page.elements) (hFrame : s.isPageFrame = false)
    (hPlain : ∀ a ∈ s.lineage, a.Plain) :
    (¬s.PathFits → page.root.select? s.framePath = none) ∧
    (s.PathFits →
      ∃ found, page.root.select? s.framePath = some found ∧ found.Sublist page.elements ∧
        ∀ m, m ∈ found ↔ m ∈ page.elements ∧ ∃ inner rest, m :: m.enclosing = inner ++ rest ∧
          List.Forall₂ (fun n m => m.Resembles n) s.lineage.reverse inner ∧
          (s.frame?.any (fun f => f.name == "body") → ∃ y, rest.head? = some y ∧ y.name = "body")) := by
  have hAround : ∀ a ∈ s :: s.lineage, a.attrs.Tidy ∧ a.Plain := by
    intro a ha
    have hLineage : a ∈ s.lineage := by
      rcases List.mem_cons.mp ha with rfl | ha
      · exact mem_lineage_self hFrame
      · exact ha
    exact ⟨hTidy a (mem_elements_of_mem_lineage hs hLineage), hPlain a hLineage⟩
  refine ⟨select?_framePath_eq_none hAround, fun hFits => ?_⟩
  obtain ⟨found, hFound, hMem⟩ := (Selector.select?_chain s.pathSegments_ne_nil
    (writable_pathSegments hAround) page.root).2 hFits.tests hFits.positions
  rw [framePath_eq]
  refine ⟨found, hFound, select?_sublist hFound, fun m => ?_⟩
  -- A match splits the spots around an element into those of the path and what is beyond them.
  rw [hMem, reverse_pathSegments hFrame, segmentsUp, Selector.matchesUp_append]
  refine and_congr_right fun hm => exists_congr fun inner => exists_congr fun rest =>
    and_congr_right fun hSplit => ?_
  have hSteps : (s :: s.ancestors).takeWhile (fun a => !a.isPageFrame) = s.lineage.reverse := by
    rw [lineage, List.reverse_reverse]
  have hInner : ∀ a ∈ inner, a.attrs.Tidy := by
    intro a ha
    exact hTidy.enclosing hm a (hSplit ▸ List.mem_append_left rest ha)
  rw [hSteps, forall₂_holds_iff (fun n hn => hPlain n (List.mem_reverse.mp hn)) hInner]
  refine and_congr_right fun _ => ?_
  rw [frameSegments]
  by_cases hBody : s.frame?.any (fun f => f.name == "body") = true
  · have hHolds (y : Spot) : Selector.matchesUp [tagSegment "body"] y ↔ y.name = "body" :=
      holds_tagSegment_body
    simp [hBody, hHolds]
  · simp [hBody]

end Spot
end StableLocator
