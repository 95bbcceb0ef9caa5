import StableLocator.Naming.Name

/-!
# Remembered names

A memo answers questions for the role, the name and the label of elements and remembers the
answers, and it remembers the references of each tree. Elements are told apart by the number of
their tree and their place in it.
-/

namespace StableLocator

/-- Where an element is: the number of its tree, and its place there. -/
structure Address where
  tree : Nat
  place : Place
  deriving DecidableEq, Repr

structure Memo where
  limit : Int := defaultTextLimit
  faults : Faults := []
  roles : List (Address × Option String) := []
  names : List (Address × String) := []
  labels : List (Address × String) := []
  references : List (Nat × References) := []

namespace Memo

/-- The references of the tree of an element; none for an element outside a page. -/
def referencesOf (m : Memo) (a : Address) (s : Spot) : Option References × Memo :=
  match s.document? with
  | none => (none, m)
  | some root =>
    match m.references.lookup a.tree with
    | some known => (some known, m)
    | none =>
      let found := References.below root
      (some found, { m with references := (a.tree, found) :: m.references })

def role (m : Memo) (a : Address) (s : Spot) : Option String × Memo :=
  match m.roles.lookup a with
  | some known => (known, m)
  | none => (s.role, { m with roles := (a, s.role) :: m.roles })

def name (m : Memo) (a : Address) (s : Spot) : String × Memo :=
  match m.names.lookup a with
  | some known => (known, m)
  | none =>
    let (references, m) := m.referencesOf a s
    let found := Lens.name ⟨m.limit, references, m.faults⟩ s
    (found, { m with names := (a, found) :: m.names })

def label (m : Memo) (a : Address) (s : Spot) : String × Memo :=
  match m.labels.lookup a with
  | some known => (known, m)
  | none =>
    let (references, m) := m.referencesOf a s
    let found := Lens.label ⟨m.limit, references, m.faults⟩ s
    (found, { m with labels := (a, found) :: m.labels })

end Memo
end StableLocator
