/-!
# Faults

Finding a locator goes through boundaries at which a failure is turned into a weaker answer. A
fault makes one of them fail with a message, each time it is reached.
-/

namespace StableLocator

/-- The tiers of the ladder, from the most to the least stable locator. -/
inductive Tier
  | testId
  | roleName
  | label
  | placeholder
  | altText
  | title
  | role
  | text
  | ancestorChain
  | textFallback
  | structuralPath
  deriving DecidableEq, Repr

/-- A place at which finding or resolving a locator can fail. -/
inductive Boundary
  | tier (tier : Tier)
  | ladder
  | synthesis
  | resolution
  | visibleText
  | comparison
  deriving DecidableEq, Repr

structure Fault where
  boundary : Boundary
  message : String
  deriving DecidableEq, Repr

abbrev Faults := List Fault

namespace Faults

/-- A value read at a boundary, or the message of the fault that strikes there; of several it is the
first. -/
def guard (faults : Faults) (boundary : Boundary) (value : α) : Except String α :=
  match faults.find? fun f => f.boundary == boundary with
  | some f => .error f.message
  | none => .ok value

/-- Without faults a value is read at any boundary. -/
@[simp] theorem guard_nil (boundary : Boundary) (value : α) :
    guard [] boundary value = .ok value := rfl

end Faults

end StableLocator
