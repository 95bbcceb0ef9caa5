/-!
# Searching lists

A search in a list finds what alone passes the test. A table without the entries of one key has the
other keys as before.
-/

namespace StableLocator

/-- The only element that passes is found. -/
theorem find?_eq_some_of_unique {α : Type} {p : α → Bool} {l : List α} {a : α} (ha : a ∈ l)
    (hPasses : p a = true) (hOnly : ∀ b ∈ l, p b = true → b = a) : l.find? p = some a := by
  cases hFound : l.find? p with
  | none => exact absurd hPasses (List.find?_eq_none.mp hFound a ha)
  | some b => rw [hOnly b (List.mem_of_find?_eq_some hFound) (List.find?_some hFound)]

/-! ## Tables -/

variable {κ β : Type} [BEq κ] [LawfulBEq κ] {key other : κ}

/-- What a table says of other keys. -/
theorem lookup_filter_ne (h : other ≠ key) (table : List (κ × β)) :
    (table.filter fun e => e.1 != key).lookup other = table.lookup other := by
  induction table with
  | nil => rfl
  | cons e table ih =>
    obtain ⟨k, v⟩ := e
    rw [List.filter_cons]
    split
    · rw [List.lookup_cons, List.lookup_cons, ih]
    · rename_i hKey
      have hKey : k = key := by simpa using hKey
      have hOther : (other == k) = false := beq_false_of_ne (hKey ▸ h)
      rw [List.lookup_cons, hOther, ih]

/-- A table in which the key does not occur. -/
theorem filter_ne_eq_self {table : List (κ × β)} (h : key ∉ table.map Prod.fst) :
    (table.filter fun e => e.1 != key) = table := by
  refine List.filter_eq_self.mpr fun e he => bne_iff_ne.mpr fun hKey => h ?_
  exact hKey ▸ List.mem_map_of_mem he

end StableLocator
