/-!
# Steps that may fail

A step that goes on from another one succeeds only if the other one did, and fails if the other one
did or it fails itself. A step for each entry of a list succeeds if all of them do, and fails as one of
them does.
-/

namespace StableLocator

variable {ε α β : Type}

/-- A mapped computation succeeds with the images of its values. -/
theorem map_eq_ok {f : α → β} {x : Except ε α} {b : β} :
    x.map f = .ok b ↔ ∃ a, x = .ok a ∧ f a = b := by
  cases x with
  | error e => simp [Except.map]
  | ok a => simp [Except.map]

/-- A computation in two steps succeeds if both steps do. -/
theorem bind_eq_ok {f : α → Except ε β} {x : Except ε α} {b : β} :
    x >>= f = .ok b ↔ ∃ a, x = .ok a ∧ f a = .ok b := by
  cases x with
  | error e => simp [bind, Except.bind]
  | ok a => simp [bind, Except.bind]

theorem toOption_eq_some {x : Except ε α} {a : α} : x.toOption = some a ↔ x = .ok a := by
  cases x with
  | error e => simp [Except.toOption]
  | ok a => simp [Except.toOption]

theorem map_eq_error {f : α → β} {x : Except ε α} {e : ε} :
    x.map f = .error e ↔ x = .error e := by
  cases x with
  | error e => simp [Except.map]
  | ok a => simp [Except.map]

/-- A computation in two steps fails in one of them. -/
theorem bind_eq_error {f : α → Except ε β} {x : Except ε α} {e : ε} :
    x >>= f = .error e ↔ x = .error e ∨ ∃ a, x = .ok a ∧ f a = .error e := by
  cases x with
  | error e => simp [bind, Except.bind]
  | ok a => simp [bind, Except.bind]

/-- What is checked of the outcome is so for what comes out. -/
theorem exists_ok_of_any {x : Except ε α} {P : α → Prop} [DecidablePred P]
    (h : x.toOption.any (fun a => decide (P a)) = true) : ∃ a, x = .ok a ∧ P a := by
  cases x with
  | error e => cases h
  | ok a => exact ⟨a, rfl, of_decide_eq_true h⟩

/-! ## A step for each entry -/

/-- If every step succeeds, so does the course. -/
theorem mapM_eq_ok {f : α → Except ε β} {g : α → β} {l : List α} (h : ∀ a ∈ l, f a = .ok (g a)) :
    l.mapM f = .ok (l.map g) := by
  induction l with
  | nil => rfl
  | cons a l ih =>
    obtain ⟨hFirst, hRest⟩ := List.forall_mem_cons.mp h
    rw [List.mapM_cons, hFirst, ih hRest]
    rfl

/-- If a step fails, the course fails with the error of some step. -/
theorem mapM_eq_error {f : α → Except ε β} {l : List α} (h : ∃ a ∈ l, ∃ e, f a = .error e) :
    ∃ a ∈ l, ∃ e, f a = .error e ∧ l.mapM f = .error e := by
  induction l with
  | nil =>
    obtain ⟨a, ha, _⟩ := h
    cases ha
  | cons a l ih =>
    cases hFirst : f a with
    | error e => exact ⟨a, List.mem_cons_self, e, hFirst, by rw [List.mapM_cons, hFirst]; rfl⟩
    | ok b =>
      obtain ⟨c, hc, e, he⟩ := h
      have hLater : c ∈ l := by
        rcases List.mem_cons.mp hc with rfl | hLater
        · rw [hFirst] at he
          cases he
        · exact hLater
      obtain ⟨c, hc, e, he, hRest⟩ := ih ⟨c, hLater, e, he⟩
      exact ⟨c, List.mem_cons_of_mem a hc, e, he, by rw [List.mapM_cons, hFirst, hRest]; rfl⟩

end StableLocator
