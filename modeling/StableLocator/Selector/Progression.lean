import StableLocator.Number.Binary64

/-!
# Progressions

A progression is the sequence `step * n + offset` for `n = 0, 1, 2, …`. A count lies on it when the
quotient of `count - offset` and `step` is whole and not negative.

The quotient is a floating point number, so it is exact for all but huge steps and offsets: from
`2 ^ 53` on every quotient is whole. A quotient that is too large for a floating point number leaves
the question open.
-/

namespace StableLocator
namespace Selector

/-- A progression. With the step zero it is the offset alone. -/
structure Progression where
  step : Int
  offset : Int
  deriving DecidableEq, Repr

namespace Progression

def only (n : Int) : Progression := ⟨0, n⟩

/-- The place of a count on the progression, if the step is not zero. -/
def place (p : Progression) (count : Nat) : Number.Binary64 :=
  .ofQuotient (count - p.offset) p.step

def contains (p : Progression) (count : Nat) : Bool :=
  if p.step = 0 then (count : Int) == p.offset
  else (p.place count).isNatural

/-- Places on the progression may be too large for a floating point number. -/
def isFar (p : Progression) : Bool := p.step != 0 && Nat.pow 2 1000 ≤ p.offset.natAbs

/-- The place of a count is too large for a floating point number. -/
def isBeyond (p : Progression) (count : Nat) : Bool := p.isFar && (p.place count).isInfinite

@[simp] theorem contains_only (n : Int) (count : Nat) :
    (only n).contains count = ((count : Int) == n) := rfl

@[simp] theorem isFar_only (n : Int) : (only n).isFar = false := rfl

end Progression
end Selector
end StableLocator
