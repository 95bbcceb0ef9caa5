import StableLocator.Locator.Resolve
import StableLocator.Proofs.Locator.Reading

/-!
# Resolving written locators

A written locator looks like a call, so no selector comes before it, and it is read back as queries
that find what its own queries find.

* `matchesIn_normal` and `chainMatches_normal` — what a text leaves out of a query does not count;
* `looksLikeCall_render` — one of the methods stands in the text, before its bracket;
* `resolve_render` and `resolvedSpots_render` — a written locator resolves to what its queries find.
-/

namespace StableLocator

/-! ## What a text leaves out -/

namespace Query

/-- A query by role alone has no name, so that its call asks for all it does. -/
def SaysAll (q : Query) : Prop := q.strategy = .role → q.name? = none

/-- A query accepts what its normal form accepts, if it says all it asks. -/
theorem accepts_normal {q : Query} (h : q.SaysAll) (lens : Lens) (s : Spot) :
    q.normal.accepts lens s = q.accepts lens s := by
  obtain ⟨strategy, value, name?, exact, scope⟩ := q
  cases strategy with
  | role =>
    -- The one strategy that would look for a name which its call does not say.
    have hName : name? = none := h rfl
    subst hName
    rfl
  | roleName | testId | label | placeholder | altText | title | text | path => cases name? <;> rfl

/-- The normal form goes by path where the query does, and for the same value. -/
theorem strategy_normal (q : Query) :
    (q.normal.strategy = .path ↔ q.strategy = .path) ∧ q.normal.value = q.value := by
  obtain ⟨strategy, value, name?, exact, scope⟩ := q
  cases strategy <;> cases name? <;> simp [normal]

/-- A query that says all it asks finds the same by its text. -/
theorem matchesIn_normal {q : Query} (h : q.SaysAll) (lens : Lens) :
    q.normal.matchesIn lens = q.matchesIn lens := by
  funext s
  have hFinds : q.normal.finds lens = q.finds lens := by
    funext t
    rw [finds, finds, accepts_normal h]
  obtain ⟨hPath, hValue⟩ := q.strategy_normal
  simp only [matchesIn, hPath, hValue, hFinds]

end Query

/-- Normal forms are followed like the queries themselves. -/
theorem follow_normal {queries : List Query} (h : ∀ q ∈ queries, q.SaysAll) (lens : Lens)
    (spots : List Spot) :
    follow lens spots (queries.map Query.normal) = follow lens spots queries := by
  induction queries generalizing spots with
  | nil => rfl
  | cons q queries ih =>
    rw [List.map_cons, follow, follow, Query.matchesIn_normal (h q List.mem_cons_self),
      ih fun q' hq' => h q' (List.mem_cons_of_mem _ hq')]

/-- A chain finds what its normal forms find. -/
theorem chainMatches_normal {queries : List Query} (h : ∀ q ∈ queries, q.SaysAll) (lens : Lens)
    (page : Page) :
    chainMatches (queries.map Query.normal) lens page = chainMatches queries lens page := by
  simp only [chainMatches, follow_normal h, List.isEmpty_map]

/-! ## Looking like a call -/

/-- What stands before a call does not hide it. -/
theorem containsCall_append (before : List Char) {cs : List Char} (h : containsCall cs = true) :
    containsCall (before ++ cs) = true := by
  induction before with
  | nil => exact h
  | cons c before ih => rw [List.cons_append, containsCall, ih, Bool.or_true]

/-- Each method begins a call where its bracket follows. -/
theorem beginsCall_method (q : Query) (d : Dialect) (cs : List Char) :
    containsCall ((q.method d).toList ++ '(' :: cs) = true := by
  unfold Query.method
  split
  · cases q.strategy <;> rfl
  · cases q.strategy <;> rfl

/-- A written locator looks like a call. -/
theorem looksLikeCall_render (l : Locator) (d : Dialect) : looksLikeCall (l.render d) = true := by
  -- The first call is enough, whatever calls come after it.
  have hCall : ∀ cs, containsCall ((l.first.render d).toList ++ cs) = true := by
    intro cs
    have hMethod := beginsCall_method l.first d
    simpa [Query.render, List.append_assoc] using hMethod _
  rw [looksLikeCall, Locator.toList_render, Locator.queries, List.flatMap_cons, List.cons_append]
  exact containsCall_append "page".toList (containsCall_append ['.'] (hCall _))

/-! ## Resolving -/

/-- A written locator resolves to what its queries find. -/
theorem resolve_render {l : Locator} (h : ∀ q ∈ l.queries, q.SaysAll) (d : Dialect) (page : Page)
    (limit : Int) (faults : Faults) :
    resolve (l.render d) page limit faults =
      ⟨.locator, chainMatches l.queries (Lens.ofPage page limit faults) page⟩ := by
  have hTrim : Text.trim (l.render d) = l.render d := trim_annotate_render l .none d
  -- The text ends in a bracket, so it is not empty.
  have hText : l.render d ≠ "" := by
    intro hEmpty
    have hLast := getLast?_render l d
    simp [hEmpty] at hLast
  have hRead : readQueries (l.render d) = .ok (l.queries.map Query.normal) :=
    readQueries_annotate_render l .none d
  simp only [resolve, hTrim, if_neg hText, resolveSelector, looksLikeCall_render, if_true,
    resolveLocator, hRead, chainMatches_normal h]

/-- Where no fault strikes, a written locator resolves to the elements that its queries find. -/
theorem resolvedSpots_render {l : Locator} (h : ∀ q ∈ l.queries, q.SaysAll) (d : Dialect)
    (page : Page) (limit : Int) :
    resolvedSpots (l.render d) page limit =
      chainMatches l.queries (Lens.ofPage page limit []) page := by
  rw [resolvedSpots, resolve?, Faults.guard_nil, resolve_render h]

end StableLocator
