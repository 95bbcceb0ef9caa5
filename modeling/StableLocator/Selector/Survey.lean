import StableLocator.Selector.Formula

/-!
# Surveys of siblings

A search asks a formula of one element after another. Two of the questions in a formula are about a
whole row of siblings: whether a later one has a property, and which place an element has when those
with a property are counted from the end. The first sibling that asks such a question surveys the
row, and the others are answered from what it noted.

* `Formula.ask` evaluates a formula with the notes made so far; there is no answer where a count is
  beyond reach.
* `Formula.isDirect` picks out the formulas without such questions, which are asked as they hold.
* `Spot.matching?` lists the elements below a spot of which a formula is asked with success.
-/

namespace StableLocator
namespace Selector

/-- A question about a row of siblings: their parent's place and the formula. -/
abbrev RowQuestion := Place × Formula

structure Notes where
  /-- The position of the last sibling with a property. -/
  last : List (RowQuestion × Option Nat) := []
  /-- The sibling that was asked first is counted itself. -/
  first : List (RowQuestion × Bool) := []

/-- An evaluation that reads and makes notes, and may meet a count beyond reach. -/
abbrev Inquiry := StateT Notes Option

namespace Inquiry

def select (property : Spot → Inquiry Bool) : List Spot → Inquiry (List Spot)
  | [] => pure []
  | s :: rest => do
    let found ← property s
    let more ← select property rest
    pure (if found then s :: more else more)

/-- One spot of a row has a property; the spots after the first that has it are not asked. -/
def any (property : Spot → Inquiry Bool) : List Spot → Inquiry Bool
  | [] => pure false
  | s :: rest => do
    let found ← property s
    if found then pure true else any property rest

/-- Whether the sibling that was asked first is counted: this one, if there is no note yet. -/
def firstCounts (question : RowQuestion) (own : Bool) : Inquiry Bool := do
  let notes ← get
  match notes.first.lookup question with
  | some known => pure known
  | none =>
    set { notes with first := (question, own) :: notes.first }
    pure own

end Inquiry

def rowPosition (s : Spot) : Place × Nat :=
  match s.context with
  | .inside _ _ left _ outer => (outer.place, left.length)
  | _ => ([], 0)

/-- The spot stands before the last one of its row that was noted. The node after the spot decides:
it must come before the last one, or not be there at all. -/
def isBeforeNoted (s : Spot) (last : Option Nat) : Bool :=
  match s.context with
  | .inside _ _ left right _ => last.any fun n => right.isEmpty || left.length + 1 < n
  | _ => false

/-- A later sibling has a property. The first that is asked looks for itself and notes where the last
one stands. -/
def askLater (f : Formula) (ask : Spot → Inquiry Bool) (s : Spot) : Inquiry Bool := do
  let (row, _) := rowPosition s
  match (← get).last.lookup (row, f) with
  | some known => pure (isBeforeNoted s known)
  | none =>
    let found ← Inquiry.select ask s.later
    let last := found.getLast?.map fun t => (rowPosition t).2
    modify fun notes => { notes with last := ((row, f), last) :: notes.last }
    pure last.isSome

/-- A formula is asked of a spot. The second of two formulas is asked only where the first leaves the
answer to it. Counting from the end starts with the sibling that was asked first, if it is counted
itself. -/
def Formula.ask (v : Vantage) : Formula → Spot → Inquiry Bool
  | .nth fromEnd ofType places among, s => do
    let counts ← among.ask v s
    let start ←
      if fromEnd ∧ among ≠ .always then
        Inquiry.firstCounts ((rowPosition s).1, .nth fromEnd ofType places among) counts
      else pure true
    if counts then
      let side ← Inquiry.select (among.ask v) (counted fromEnd ofType s)
      let count := side.length + if start then 1 else 0
      if places.isBeyond count then failure else pure (places.contains count)
    else pure false
  | .both f g, s => do
    let holds ← f.ask v s
    if holds then g.ask v s else pure false
  | .either f g, s => do
    let holds ← f.ask v s
    if holds then pure true else g.ask v s
  | .negate f, s => do
    let holds ← f.ask v s
    pure !holds
  | .look axis f, s =>
    if axis = .later then askLater f (f.ask v) s else Inquiry.any (f.ask v) (axis.spots s)
  | f, s => pure (f.holds v s)

/-- A formula without questions about rows of siblings and without progressions that may be beyond
reach. -/
def Formula.isDirect : Formula → Bool
  | .nth fromEnd _ places among =>
    !places.isFar && !(fromEnd && among != .always) && among.isDirect
  | .both f g => f.isDirect && g.isDirect
  | .either f g => f.isDirect && g.isDirect
  | .negate f => f.isDirect
  | .look axis f => axis != .later && f.isDirect
  | _ => true

end Selector

/-- The elements below a spot at which a formula holds, asked in document order; none if a count is
beyond reach. -/
def Spot.matching? (s : Spot) (f : Selector.Formula) : Option (List Spot) :=
  if f.isDirect then some (s.matching f)
  else (Selector.Inquiry.select (f.ask (Selector.Vantage.of s)) s.descendants).run' {}

/-- The elements that a direct formula is asked of are those at which it holds. -/
theorem Spot.matching?_of_isDirect {f : Selector.Formula} (h : f.isDirect = true) (s : Spot) :
    s.matching? f = some (s.matching f) := by
  simp [Spot.matching?, h]

end StableLocator
