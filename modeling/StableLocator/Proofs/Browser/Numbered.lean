import StableLocator.Browser.Snapshot
import StableLocator.Proofs.Number.Digits
import StableLocator.Proofs.Outcome
import StableLocator.Proofs.Page.Order
import StableLocator.Proofs.Session.Marks

/-!
# Numbered pages

Where each element of a page bears a number of its own as its index stamp, an element is found by its
number. Marks leave the numbers alone, unless they are made with the stamp itself.

* `Page.NumberedBy` — the number of each place is the index stamp of the element in it;
* `Page.NumberedBy.eraseAt` and `Page.NumberedBy.markAt` — what marks leave alone;
* `Page.NumberedBy.atIndex?` — the element with a number.
-/

namespace StableLocator
namespace Page

variable {page : Page} {number : Place → Nat}

/-- Every element has the number of its place for its index stamp, and no other element has it. -/
structure NumberedBy (number : Place → Nat) (page : Page) : Prop where
  stamp : ∀ s ∈ page.elements, s.attr? indexStamp = some (Nat.repr (number s.place))
  distinct : ∀ s ∈ page.elements, ∀ t ∈ page.elements,
    number s.place = number t.place → s.place = t.place

instance (number : Place → Nat) (page : Page) : Decidable (page.NumberedBy number) :=
  decidable_of_iff
    ((∀ s ∈ page.elements, s.attr? indexStamp = some (Nat.repr (number s.place))) ∧
      ∀ s ∈ page.elements, ∀ t ∈ page.elements, number s.place = number t.place → s.place = t.place)
    ⟨fun h => ⟨h.1, h.2⟩, fun h => ⟨h.stamp, h.distinct⟩⟩

namespace NumberedBy

/-- A rule that leaves the stamps alone leaves the numbers alone. -/
theorem mapAttrs (h : page.NumberedBy number) {rule : Place → Attributes → Attributes}
    (hRule : ∀ place attrs, (rule place attrs).lookup indexStamp = attrs.lookup indexStamp) :
    (page.mapAttrs rule).NumberedBy number where
  stamp s hs := by
    obtain ⟨t, ht, hPlace, hAttrs⟩ := exists_of_mem_mapAttrs hs
    have hStamp := h.stamp t ht
    rwa [Spot.attr?, Attributes.text?, ← hRule t.place, ← hAttrs, hPlace] at hStamp
  distinct s hs t ht hSame := by
    obtain ⟨s', hs', hPlace, _⟩ := exists_of_mem_mapAttrs hs
    obtain ⟨t', ht', hPlace', _⟩ := exists_of_mem_mapAttrs ht
    rw [← hPlace, ← hPlace'] at hSame ⊢
    exact h.distinct s' hs' t' ht' hSame

variable {name : String}

theorem eraseAt (h : page.NumberedBy number) (hName : indexStamp ≠ name) (places : List Place) :
    (page.eraseAt name places).NumberedBy number :=
  h.mapAttrs fun place attrs => by
    split
    · exact Attributes.lookup_erase hName attrs
    · rfl

theorem markAt (h : page.NumberedBy number) (hName : indexStamp ≠ name) (places : List Place) :
    (page.markAt name places).NumberedBy number :=
  h.mapAttrs fun place attrs => by
    split
    · exact Attributes.lookup_put_of_ne hName _ attrs
    · rfl

/-- The stamp of the element at a place. -/
theorem stamp_find? (h : page.NumberedBy number) {s : Spot} (hs : s ∈ page.elements) :
    (page.find? s.place).bind (·.attr? indexStamp) = some (Nat.repr (number s.place)) := by
  rw [find?_place hs]
  exact h.stamp s hs

/-- An element is found by its number, unless the number has too many digits. -/
theorem atIndex? (h : page.NumberedBy number) {s : Spot} (hs : s ∈ page.elements)
    (hFew : (Nat.toDigits 10 (number s.place)).length ≤ Number.digitLimit) :
    page.atIndex? (number s.place) = some s := by
  have hRead (n : Nat) : (Number.readInteger (Nat.repr n)).toOption = some (number s.place : Int) ↔
      n = number s.place := by
    rw [toOption_eq_some, Number.readInteger_repr]
    constructor
    · intro h
      split at h
      · cases h
      · exact Int.ofNat.inj (Except.ok.inj h)
    · rintro rfl
      exact if_neg (Nat.not_lt.mpr hFew)
  refine find?_eq_some_of_unique (List.mem_reverse.mpr hs) ?_ fun t ht hSame => ?_
  · rw [h.stamp s hs, Option.any_some, (hRead _).mpr rfl]
    exact beq_self_eq_true _
  · rw [List.mem_reverse] at ht
    rw [h.stamp t ht, Option.any_some, beq_iff_eq, hRead] at hSame
    exact Spot.eq_of_place_eq ht hs (h.distinct t ht s hs hSame)

end NumberedBy
end Page
end StableLocator
