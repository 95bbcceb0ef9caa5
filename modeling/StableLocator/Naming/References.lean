import StableLocator.Page.Spot

/-!
# References between elements

One element names another by its id, and a `label` element names the element that it is for. Of
several elements with one id, and of several labels for one id, the first in document order counts.
-/

namespace StableLocator

/-- Targets with the elements they lead to, in the order of first occurrence. -/
abbrev Targets := List (String × Spot)

/-- A target added at the end, unless it is there. -/
def Targets.add (targets : Targets) (key : String) (s : Spot) : Targets :=
  if (targets.lookup key).isSome then targets else targets ++ [(key, s)]

/-- What the ids and the labels of one tree lead to. -/
structure References where
  ids : Targets
  labels : Targets
  deriving Repr

namespace References

def add (r : References) (s : Spot) : References where
  ids := match s.attr? "id" with
    | some id => r.ids.add id s
    | none => r.ids
  labels := match s.attr? "for" with
    | some target => if s.name = "label" then r.labels.add target s else r.labels
    | none => r.labels

def below (root : Spot) : References := root.descendants.foldl add ⟨[], []⟩

end References
end StableLocator
