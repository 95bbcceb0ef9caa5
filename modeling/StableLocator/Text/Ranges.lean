/-!
# Character ranges

A class of characters is a list of inclusive code point ranges in ascending order. The tables of
the modules beside this one are such lists.
-/

namespace StableLocator
namespace Text

/-- Inclusive ranges of code points. -/
abbrev Ranges := List (Nat × Nat)

/-- A code point is in the class when one of the ranges holds it. -/
def Ranges.holds (ranges : Ranges) (n : Nat) : Bool :=
  ranges.any fun range => range.1 ≤ n && n ≤ range.2

/-- The ranges hold a number just if one of them does. -/
theorem Ranges.holds_iff {ranges : Ranges} {n : Nat} :
    ranges.holds n = true ↔ ∃ range ∈ ranges, range.1 ≤ n ∧ n ≤ range.2 := by
  simp [Ranges.holds, List.any_eq_true]

end Text
end StableLocator
