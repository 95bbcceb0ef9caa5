import StableLocator.Naming.References
import Mathlib.Data.List.Induction

/-!
# First elements

The references of a tree lead from each id to the first element with it, and from each target to the
first label for it. Ids and targets stand in the order in which they occur first.

* `Targets.FirstBy` — targets that lead to the first of some elements with a key;
* `Targets.FirstBy.note` — one more element keeps them so;
* `References.firstIn_below` — the references of a tree are of this kind.
-/

namespace StableLocator

namespace Targets

def note (targets : Targets) (key? : Option String) (s : Spot) : Targets :=
  match key? with
  | some key => targets.add key s
  | none => targets

/-- The targets lead from each key to the first element with it, and the keys stand in the order in
which they occur first. -/
structure FirstBy (key? : Spot → Option String) (elements : List Spot) (targets : Targets) :
    Prop where
  lookup : ∀ key, targets.lookup key = elements.find? fun s => key? s == some key
  keys : targets.map Prod.fst = (elements.filterMap key?).eraseDups

variable {key? : Spot → Option String} {elements : List Spot} {targets : Targets}

/-- A table has a value just for its keys. -/
theorem lookup_isSome_iff {key : String} :
    (targets.lookup key).isSome = true ↔ key ∈ targets.map Prod.fst := by
  rw [List.lookup_isSome_iff, List.mem_map]
  constructor
  · rintro ⟨target, hTarget, hKey⟩
    exact ⟨target, hTarget, (eq_of_beq hKey).symm⟩
  · rintro ⟨target, hTarget, rfl⟩
    exact ⟨target, hTarget, beq_self_eq_true target.1⟩

namespace FirstBy

theorem nil : FirstBy key? [] [] := ⟨fun _ => rfl, rfl⟩

/-- A key that is there keeps its element. -/
theorem add_known {key : String} {s : Spot} (h : FirstBy key? elements targets)
    (hKey : key? s = some key) (hKnown : (targets.lookup key).isSome = true) :
    FirstBy key? (elements ++ [s]) targets := by
  have hMem : key ∈ elements.filterMap key? := by
    rw [← List.mem_eraseDups, ← h.keys]
    exact lookup_isSome_iff.mp hKnown
  constructor
  · intro other
    rw [h.lookup, List.find?_append]
    by_cases hOther : other = key
    · subst hOther
      rw [h.lookup] at hKnown
      rw [Option.or_of_isSome hKnown]
    · have hNot : (key? s == some other) = false := by
        rw [hKey, beq_eq_false_iff_ne]
        exact fun hSame => hOther (Option.some.inj hSame).symm
      rw [List.find?_cons_of_neg (by simp [hNot]), List.find?_nil, Option.or_none]
  · have hRemoved : [key].removeAll (elements.filterMap key?) = [] := by
      simpa [List.removeAll] using hMem
    rw [h.keys, List.filterMap_append, List.eraseDups_append]
    simp [hKey, hRemoved]

/-- A key that is new leads to its element, behind the others. -/
theorem add_new {key : String} {s : Spot} (h : FirstBy key? elements targets)
    (hKey : key? s = some key) (hNew : ¬(targets.lookup key).isSome = true) :
    FirstBy key? (elements ++ [s]) (targets ++ [(key, s)]) := by
  have hNotMem : key ∉ elements.filterMap key? := by
    rw [← List.mem_eraseDups, ← h.keys]
    exact fun hMem => hNew (lookup_isSome_iff.mpr hMem)
  constructor
  · intro other
    rw [List.lookup_append, h.lookup, List.find?_append]
    have hLast : [(key, s)].lookup other = [s].find? fun t => key? t == some other := by
      by_cases hOther : other = key
      · subst hOther
        simp [hKey]
      · have hBack : key ≠ other := fun hSame => hOther hSame.symm
        simp [List.lookup_cons, beq_false_of_ne hOther, hKey, hBack]
    rw [hLast]
  · have hRemoved : [key].removeAll (elements.filterMap key?) = [key] := by
      simpa [List.removeAll] using hNotMem
    rw [List.map_append, h.keys, List.filterMap_append, List.eraseDups_append]
    simp [hKey, hRemoved, List.eraseDups_cons]

/-- One more element at the end. -/
theorem note (h : FirstBy key? elements targets) (s : Spot) :
    FirstBy key? (elements ++ [s]) (targets.note (key? s) s) := by
  cases hKey : key? s with
  | none =>
    have hNot : ∀ key, (key? s == some key) = false := by simp [hKey]
    constructor
    · intro key
      rw [Targets.note, h.lookup, List.find?_append, List.find?_cons_of_neg (by simp [hNot]),
        List.find?_nil, Option.or_none]
    · rw [Targets.note, h.keys, List.filterMap_append]
      simp [hKey]
  | some key =>
    rw [Targets.note, add]
    split
    · rename_i hKnown
      exact h.add_known hKey hKnown
    · rename_i hNew
      exact h.add_new hKey hNew

end FirstBy
end Targets

/-- The target of a label. -/
def Spot.labelled? (s : Spot) : Option String := if s.name = "label" then s.attr? "for" else none

namespace References

/-- The references lead to the first of some elements with an id, and to the first label for a
target. -/
structure FirstIn (elements : List Spot) (r : References) : Prop where
  ids : Targets.FirstBy (fun s => s.attr? "id") elements r.ids
  labels : Targets.FirstBy Spot.labelled? elements r.labels

/-- References take an id and a label from each element. -/
theorem add_eq_note (r : References) (s : Spot) :
    r.add s = ⟨r.ids.note (s.attr? "id") s, r.labels.note s.labelled? s⟩ := by
  have hLabels : (r.add s).labels = r.labels.note s.labelled? s := by
    rw [add, Spot.labelled?]
    by_cases hLabel : s.name = "label"
    · simp only [if_pos hLabel]
      rfl
    · simp only [if_neg hLabel]
      cases s.attr? "for" <;> rfl
  exact congrArg (References.mk (r.add s).ids) hLabels

/-- References to the first elements stay so with one more element. -/
theorem FirstIn.add {elements : List Spot} {r : References} (h : FirstIn elements r) (s : Spot) :
    FirstIn (elements ++ [s]) (r.add s) := by
  rw [add_eq_note]
  exact ⟨h.ids.note s, h.labels.note s⟩

/-- The references of a tree lead to the first element with an id and the first label for a target. -/
theorem firstIn_below (root : Spot) : FirstIn root.descendants (below root) := by
  rw [below]
  -- Element by element, what was seen so far counts.
  induction root.descendants using List.reverseRecOn with
  | nil => exact ⟨.nil, .nil⟩
  | append_singleton elements s ih =>
    rw [List.foldl_append]
    exact ih.add s

end References
end StableLocator
