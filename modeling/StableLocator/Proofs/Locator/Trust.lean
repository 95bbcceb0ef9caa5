import StableLocator.Locator.Ladder
import StableLocator.Proofs.Locator.Chain
import StableLocator.Proofs.Locator.Resolving

/-!
# Findings of full trust

A finding without a warning comes from a query, or a chain of two, that was seen to find exactly the
wanted element. Its text says all that was asked, so it resolves to this element alone.

* `eq_singleton_of_isOnly` — of the elements of a page, exactly the wanted one was found;
* `Target.proven?_eq_some_iff` — a query is proven just where it finds the wanted element alone;
* `Target.Asks` — what an element can be asked for, and `Target.stableQuery?_eq_some` — what the search for
  one query ends with;
* `Finding.Hits` — a finding that says all it asks and finds exactly the target;
* `tier_hits` — every tier but the last two hits, unless it warns;
* `resolve_find` — the text of a finding without a warning resolves to the element.
-/

namespace StableLocator

/-- Of the elements of a page exactly the wanted one was found. -/
theorem eq_singleton_of_isOnly {page : Page} {found : List Spot} {target : Spot}
    (hFound : found ⊆ page.elements) (hTarget : target ∈ page.elements)
    (h : isOnly found target = true) : found = [target] := by
  rw [isOnly, beq_iff_eq, Verdict.of] at h
  -- Each verdict but the last one is about something else that was found, or nothing.
  split at h
  · cases h
  · split at h
    · cases h
    · rename_i hHit
      split at h
      · rename_i hLength
        obtain ⟨s, rfl⟩ := List.length_eq_one_iff.1 hLength
        have hSame : s.same target = true := by simpa using hHit
        rw [Spot.same_iff (hFound List.mem_cons_self) hTarget] at hSame
        rw [hSame]
      · cases h

theorem isOnly_singleton (s : Spot) : isOnly [s] s = true := by
  have hSame : s.same s = true := beq_self_eq_true s.place
  simp [isOnly, Verdict.of, hSame]

namespace Target

variable {t : Target} {q found : Query} {inside : Where} {wanted : Spot}

/-! ## Single queries -/

/-- The query says all it asks and finds exactly the wanted element there. -/
def Hits (t : Target) (q : Query) (inside : Where) (wanted : Spot) : Prop :=
  q.SaysAll ∧ q.matchesIn t.lens (inside.getD t.page.root) = [wanted]

theorem matchesIn_subset (q : Query) (hInside : ∀ s ∈ inside, s ∈ t.page.elements) :
    q.matchesIn t.lens (inside.getD t.page.root) ⊆ t.page.elements := by
  intro s hs
  have hBelow := Query.mem_descendants_of_mem_matchesIn hs
  cases inside with
  | none => exact hBelow
  | some a => exact Page.mem_elements_of_mem_descendants (hInside a rfl) hBelow

/-- A query is unique just if the wanted element is all that matches. -/
theorem isUnique_iff (hInside : ∀ s ∈ inside, s ∈ t.page.elements)
    (hWanted : wanted ∈ t.page.elements) :
    t.isUnique q inside wanted = true ↔
      q.matchesIn t.lens (inside.getD t.page.root) = [wanted] := by
  constructor
  · intro h
    exact eq_singleton_of_isOnly (matchesIn_subset q hInside) hWanted h
  · intro h
    rw [isUnique, h]
    exact isOnly_singleton wanted

/-- A query is proven just where it finds the wanted element alone; what is kept of it is its scope. -/
theorem proven?_eq_some_iff (hInside : ∀ s ∈ inside, s ∈ t.page.elements)
    (hWanted : wanted ∈ t.page.elements) :
    t.proven? q inside wanted = some found ↔
      q.matchesIn t.lens (inside.getD t.page.root) = [wanted] ∧
        { q with scope := scopeOf inside } = found := by
  have hUnique : t.isUnique { q with scope := scopeOf inside } inside wanted = true ↔
      q.matchesIn t.lens (inside.getD t.page.root) = [wanted] := isUnique_iff hInside hWanted
  simp only [proven?]
  by_cases h : t.isUnique { q with scope := scopeOf inside } inside wanted = true
  · rw [if_pos h, Option.some.injEq]
    exact (and_iff_right (hUnique.mp h)).symm
  · rw [if_neg h]
    constructor
    · intro hNone
      cases hNone
    · rintro ⟨hFinds, _⟩
      exact absurd (hUnique.mpr hFinds) h

theorem hits_of_isUnique (hSays : q.SaysAll) (hInside : ∀ s ∈ inside, s ∈ t.page.elements)
    (hWanted : wanted ∈ t.page.elements) (h : t.isUnique q inside wanted = true) :
    t.Hits q inside wanted :=
  ⟨hSays, (isUnique_iff hInside hWanted).mp h⟩

theorem hits_of_proven? (hSays : q.SaysAll) (hInside : ∀ s ∈ inside, s ∈ t.page.elements)
    (hWanted : wanted ∈ t.page.elements) (h : t.proven? q inside wanted = some found) :
    t.Hits found inside wanted := by
  rcases (proven?_eq_some_iff hInside hWanted).mp h with ⟨hFinds, rfl⟩
  exact ⟨hSays, hFinds⟩

/-- Whichever of the exact and the loose query is found, it hits. -/
theorem hits_of_exactOrLoose? (hSays : q.SaysAll) (hInside : ∀ s ∈ inside, s ∈ t.page.elements)
    (hWanted : wanted ∈ t.page.elements) (h : t.exactOrLoose? q inside wanted = some found) :
    t.Hits found inside wanted := by
  rw [exactOrLoose?, Option.orElse_eq_some] at h
  -- Whether texts are compared exactly has no part in what a query says of its role.
  have hSays' (exact : Bool) : ({ q with exact } : Query).SaysAll := hSays
  rcases h with h | ⟨_, h⟩
  · exact hits_of_proven? (hSays' true) hInside hWanted h
  · exact hits_of_proven? (hSays' false) hInside hWanted h

/-- A query by another strategy than role alone says all it asks. -/
theorem saysAll_of_ne (h : q.strategy ≠ .role) : q.SaysAll := fun hRole => absurd hRole h

/-! ## Asking for single elements -/

/-- What an element can be asked for wherever it stands: its test id, its role and name with an exact or
a loose text, or its name if it is short. -/
inductive Asks (t : Target) (s : Spot) : Query → Prop
  | testId {value : String} (h : s.testId? = some value) : Asks t s { strategy := .testId, value }
  | roleName {role : String} (hRole : s.role = some role) (hSome : role ≠ "")
      (hName : t.lens.name s ≠ "") (exact : Bool) :
      Asks t s { strategy := .roleName, value := role, name? := some (t.lens.name s), exact }
  | text (hName : t.lens.name s ≠ "") (hShort : t.lens.fits (t.lens.name s) = true) :
      Asks t s { strategy := .text, value := t.lens.name s, exact := true }

theorem Asks.scope_eq {s : Spot} (h : t.Asks s q) : q.scope = .page := by
  cases h <;> rfl

/-- What can be asked about an element is said in full. -/
theorem Asks.saysAll {s : Spot} (h : t.Asks s q) : q.SaysAll := by
  apply saysAll_of_ne
  cases h <;> simp

/-- An element has a role and a name just if both are there with some text. -/
theorem roleAndName?_eq_some_iff {s : Spot} {role name : String} :
    t.roleAndName? s = some (role, name) ↔
      s.role = some role ∧ role ≠ "" ∧ t.lens.name s = name ∧ name ≠ "" := by
  unfold roleAndName?
  cases hRole : s.role with
  | none => simp
  | some own =>
    by_cases hEmpty : own = "" ∨ t.lens.name s = ""
    · simp only [if_pos hEmpty]
      grind
    · simp only [if_neg hEmpty]
      grind

/-- A short name is a name with some text that fits. -/
theorem shortName?_eq_some_iff {s : Spot} {name : String} :
    t.shortName? s = some name ↔
      t.lens.name s = name ∧ name ≠ "" ∧ t.lens.fits name = true := by
  unfold shortName?
  by_cases hShort : t.lens.name s ≠ "" ∧ t.lens.fits (t.lens.name s) = true
  · simp only [if_pos hShort]
    grind
  · simp only [if_neg hShort]
    grind

/-- The search for a query ends with one that the element can be asked for and that finds it alone. -/
theorem stableQuery?_eq_some (hInside : ∀ s ∈ inside, s ∈ t.page.elements)
    (hWanted : wanted ∈ t.page.elements) (h : t.stableQuery? inside wanted = some found) :
    ∃ q, t.Asks wanted q ∧ q.matchesIn t.lens (inside.getD t.page.root) = [wanted] ∧
      { q with scope := scopeOf inside } = found := by
  simp only [stableQuery?, exactOrLoose?, Option.orElse_eq_some, Option.bind_eq_bind,
    Option.bind_eq_some_iff] at h
  rcases h with ⟨value, hId, h⟩ | ⟨_, ⟨⟨role, name⟩, hOwn, hTries⟩ | ⟨_, name, hOwn, h⟩⟩
  · exact ⟨_, .testId hId, (proven?_eq_some_iff hInside hWanted).mp h⟩
  · rcases roleAndName?_eq_some_iff.mp hOwn with ⟨hRole, hSome, rfl, hName⟩
    rcases hTries with h | ⟨_, h⟩
    · exact ⟨_, .roleName hRole hSome hName true, (proven?_eq_some_iff hInside hWanted).mp h⟩
    · exact ⟨_, .roleName hRole hSome hName false, (proven?_eq_some_iff hInside hWanted).mp h⟩
  · rcases shortName?_eq_some_iff.mp hOwn with ⟨rfl, hName, hShort⟩
    exact ⟨_, .text hName hShort, (proven?_eq_some_iff hInside hWanted).mp h⟩

theorem hits_of_stableQuery? (hInside : ∀ s ∈ inside, s ∈ t.page.elements)
    (hWanted : wanted ∈ t.page.elements) (h : t.stableQuery? inside wanted = some found) :
    t.Hits found inside wanted := by
  rcases stableQuery?_eq_some hInside hWanted h with ⟨q, hAsks, hFinds, rfl⟩
  exact ⟨hAsks.saysAll, hFinds⟩

/-- Inside an element the search may also end with the segment. -/
theorem childQuery?_eq_some {a : Spot} (ha : a ∈ t.page.elements) (hSpot : t.spot ∈ t.page.elements)
    (h : t.childQuery? a = some found) :
    ∃ q, (t.Asks t.spot q ∨ q = { strategy := .path, value := t.spot.segment }) ∧
      q.matchesIn t.lens a = [t.spot] ∧ { q with scope := .within a.place } = found := by
  have hInside : ∀ s ∈ some a, s ∈ t.page.elements := by simpa using ha
  rw [childQuery?, Option.orElse_eq_some] at h
  rcases h with h | ⟨_, h⟩
  · rcases stableQuery?_eq_some hInside hSpot h with ⟨q, hAsks, hFinds, hFound⟩
    exact ⟨q, .inl hAsks, hFinds, hFound⟩
  · rcases (proven?_eq_some_iff hInside hSpot).mp h with ⟨hFinds, hFound⟩
    exact ⟨_, .inr rfl, hFinds, hFound⟩

theorem hits_of_childQuery? {ancestor : Spot} (hAncestor : ancestor ∈ t.page.elements)
    (hSpot : t.spot ∈ t.page.elements) (h : t.childQuery? ancestor = some found) :
    t.Hits found (some ancestor) t.spot := by
  rcases childQuery?_eq_some hAncestor hSpot h with ⟨q, hAsks | rfl, hFinds, rfl⟩
  · exact ⟨hAsks.saysAll, hFinds⟩
  · exact ⟨saysAll_of_ne (by simp), hFinds⟩

end Target

/-! ## Findings -/

/-- The finding says all it asks and finds exactly the target. -/
def Finding.Hits (f : Finding) (t : Target) : Prop :=
  (∀ q ∈ f.locator.queries, q.SaysAll) ∧
    chainMatches f.locator.queries t.lens t.page = [t.spot]

namespace Target

variable {t : Target} {f : Finding}

/-- The finding of one query that hits the target. -/
theorem finding_hits {q : Query} (tier : Tier) (severity : Severity) (h : t.Hits q none t.spot) :
    (finding tier q severity).Hits t := by
  obtain ⟨hSays, hFinds⟩ := h
  refine ⟨fun q' hq' => ?_, ?_⟩
  · rw [List.mem_singleton.1 hq']
    exact hSays
  · rw [finding, Locator.queries, chainMatches_cons]
    exact hFinds

/-- A child that is found inside an ancestor that is found. -/
theorem chainBy?_hits {ancestor : Spot} (hAncestor : ancestor ∈ t.page.elements)
    (hSpot : t.spot ∈ t.page.elements) (h : t.chainBy? ancestor = some f) : f.Hits t := by
  simp only [chainBy?, Option.bind_eq_bind, Option.bind_eq_some_iff, Option.pure_def,
    Option.some.injEq] at h
  obtain ⟨anchor, hAnchor, child, hChild, rfl⟩ := h
  obtain ⟨hSaysAnchor, hFindsAnchor⟩ := hits_of_stableQuery? (by simp) hAncestor hAnchor
  obtain ⟨hSaysChild, hFindsChild⟩ := hits_of_childQuery? hAncestor hSpot hChild
  refine ⟨?_, ?_⟩
  · intro q hq
    rcases List.mem_cons.1 hq with rfl | hq
    · exact hSaysAnchor
    · rw [List.mem_singleton.1 hq]
      exact hSaysChild
  · -- The first step leaves the ancestor alone, so that the second one has a single scope.
    have hFirst : anchor.matchesIn t.lens t.page.root = [ancestor] := hFindsAnchor
    have hSecond : child.matchesIn t.lens ancestor = [t.spot] := hFindsChild
    rw [Locator.queries, chainMatches_cons, hFirst, follow, List.flatMap_singleton, hSecond]
    rfl

/-- The ancestors that are looked at are elements of the page. -/
theorem chainAncestors_subset (hSpot : t.spot ∈ t.page.elements) :
    t.chainAncestors ⊆ t.page.elements := by
  intro a ha
  have hAncestor : a ∈ t.spot.ancestors :=
    (List.takeWhile_sublist _).subset ((List.take_sublist _ _).subset ha)
  exact Page.mem_elements_of_mem_ancestors hSpot hAncestor

/-- A finding by an attribute hits, as its query was proven. -/
theorem byAttribute_hits {tier : Tier} {strategy : Strategy} {name : String}
    (hStrategy : strategy ≠ .role) (hSpot : t.spot ∈ t.page.elements)
    (h : t.byAttribute tier strategy name = some f) : f.Hits t := by
  simp only [byAttribute] at h
  split at h
  · cases h
  · rw [Option.map_eq_some_iff] at h
    obtain ⟨q, hq, rfl⟩ := h
    exact finding_hits tier .none
      (hits_of_exactOrLoose? (saysAll_of_ne hStrategy) (by simp) hSpot hq)

def mayWarn : Tier → Bool
  | .testId | .textFallback | .structuralPath => true
  | _ => false

/-- Every tier hits the target, unless it warns. -/
theorem tier_hits {step : Tier} (hSpot : t.spot ∈ t.page.elements) (h : t.tier step = some f)
    (hSure : mayWarn step = true → f.severity = .none) : f.Hits t := by
  -- One case for each tier; those that find by a proven query differ in how they come to it.
  cases step with
  | testId =>
    -- This query is written whether or not it is unique, which only decides on the warning.
    rw [tier, byTestId, Option.map_eq_some_iff] at h
    obtain ⟨value, _, rfl⟩ := h
    have hSeverity := hSure rfl
    simp only [finding] at hSeverity
    split at hSeverity
    · rename_i hUnique
      exact finding_hits .testId _
        (hits_of_isUnique (saysAll_of_ne (by simp)) (by simp) hSpot hUnique)
    · cases hSeverity
  | roleName =>
    simp only [tier, byRoleName, Option.bind_eq_bind, Option.bind_eq_some_iff] at h
    obtain ⟨⟨role, name⟩, _, h⟩ := h
    split at h
    · cases h
    · simp only [Option.bind_eq_some_iff, Option.pure_def, Option.some.injEq] at h
      obtain ⟨q, hq, rfl⟩ := h
      exact finding_hits .roleName .none
        (hits_of_exactOrLoose? (saysAll_of_ne (by simp)) (by simp) hSpot hq)
  | label =>
    simp only [tier, byLabel] at h
    split at h
    · cases h
    · rw [Option.map_eq_some_iff] at h
      obtain ⟨q, hq, rfl⟩ := h
      exact finding_hits .label .none
        (hits_of_exactOrLoose? (saysAll_of_ne (by simp)) (by simp) hSpot hq)
  | placeholder => exact byAttribute_hits (by decide) hSpot h
  | altText =>
    rw [tier] at h
    split at h
    · exact byAttribute_hits (by decide) hSpot h
    · cases h
  | title => exact byAttribute_hits (by decide) hSpot h
  | role =>
    simp only [tier, byRole, Option.bind_eq_bind, Option.bind_eq_some_iff] at h
    obtain ⟨role, _, h⟩ := h
    split at h
    · cases h
    · simp only [Option.bind_eq_some_iff, Option.pure_def, Option.some.injEq] at h
      obtain ⟨q, hq, rfl⟩ := h
      exact finding_hits .role .none (hits_of_proven? (fun _ => rfl) (by simp) hSpot hq)
  | text =>
    simp only [tier, byText, Option.bind_eq_bind, Option.bind_eq_some_iff, Option.pure_def,
      Option.some.injEq] at h
    obtain ⟨name, _, q, hq, rfl⟩ := h
    exact finding_hits .text .none
      (hits_of_proven? (saysAll_of_ne (by simp)) (by simp) hSpot hq)
  | ancestorChain =>
    -- The first of the nearest ancestors that has a query of its own and one for the target in it.
    obtain ⟨ancestor, hAncestor, h⟩ := List.exists_of_findSome?_eq_some h
    exact chainBy?_hits (chainAncestors_subset hSpot hAncestor) hSpot h
  | textFallback =>
    rw [tier, byLooseText, Option.map_eq_some_iff] at h
    obtain ⟨name, _, rfl⟩ := h
    cases hSure rfl
  | structuralPath =>
    simp only [tier, byPath] at h
    split at h
    · cases h
    · rw [Option.some.injEq] at h
      subst h
      cases hSure rfl

/-! ## The ladder -/

/-- What the ladder ends with comes from one of its tiers. -/
theorem climb_eq_some {steps : List Tier} (h : t.climb steps = .ok (some f)) :
    ∃ step ∈ steps, t.tier step = some f := by
  induction steps with
  | nil => simp [climb] at h
  | cons step steps ih =>
    simp only [climb, bind, Except.bind] at h
    split at h
    · cases h
    · rename_i result hTier
      -- A tier that no fault strikes ends with what it ends with on its own.
      have hFound : t.tier step = result := by
        rw [tier?, Faults.guard] at hTier
        split at hTier
        · cases hTier
        · injection hTier
      cases result with
      | none =>
        obtain ⟨step', hMem, hStep⟩ := ih h
        exact ⟨step', List.mem_cons_of_mem _ hMem, hStep⟩
      | some g =>
        injection h with h
        exact ⟨step, List.mem_cons_self, hFound.trans h⟩

/-- What is found for an element comes from a tier of the ladder, or is the tag alone. -/
theorem find_eq (t : Target) : (∃ step, t.tier step = some t.find) ∨ t.find = t.byTag := by
  unfold find
  split
  · -- The ladder ended with a finding; with nothing, or with a fault, the tag is taken.
    rename_i f h
    rw [climbLadder] at h
    simp only [bind, Except.bind] at h
    split at h
    · cases h
    · obtain ⟨step, _, hStep⟩ := climb_eq_some h
      exact .inl ⟨step, hStep⟩
  · exact .inr rfl

/-- What is found without a warning hits the target. -/
theorem find_hits (hSpot : t.spot ∈ t.page.elements) (h : t.find.severity = .none) :
    t.find.Hits t := by
  rcases t.find_eq with ⟨step, hStep⟩ | hTag
  · exact tier_hits hSpot hStep fun _ => h
  · -- The tag alone comes with a warning.
    rw [hTag] at h
    cases h

end Target

/-- The text of a finding without a warning resolves to the element, whatever faults strike while it
is found and resolved. -/
theorem resolve_find {page : Page} {spot : Spot} (hSpot : spot ∈ page.elements) (limit depth : Int)
    (d : Dialect) (faults : Faults)
    (h : (Target.of page spot limit depth faults).find.severity = .none) :
    resolve ((Target.of page spot limit depth faults).find.locator.render d) page limit faults =
      ⟨.locator, [spot]⟩ := by
  obtain ⟨hSays, hFinds⟩ := Target.find_hits (t := Target.of page spot limit depth faults) hSpot h
  rw [resolve_render hSays]
  exact congrArg (Resolution.mk .locator) hFinds

/-- A locator of full trust finds its element again and no other: its text resolves to exactly this
element, in every dialect. -/
theorem resolvedSpots_find (page : Page) (spot : Spot) (hSpot : spot ∈ page.elements)
    (limit depth : Int) (d : Dialect)
    (h : (Target.of page spot limit depth).find.severity = .none) :
    resolvedSpots ((Target.of page spot limit depth).find.locator.render d) page limit = [spot] := by
  rw [resolvedSpots, resolve?, Faults.guard_nil, resolve_find hSpot limit depth d [] h]

def twinButtons : Page where
  nodes := ["left", "right"].map fun part =>
    .element "section" [("data-testid", .single part)] [.element "button" [] [.text .plain "Go"]]

/-- The first button is found inside its part. -/
theorem resolvedSpots_find_twinButtons :
    ∃ spot ∈ twinButtons.elements, spot.place = [0, 0] ∧
      (Target.of twinButtons spot 120 4).find.severity = .none ∧
      (Target.of twinButtons spot 120 4).find.locator.isChained = true ∧
      ∀ d : Dialect, resolvedSpots ((Target.of twinButtons spot 120 4).find.locator.render d)
        twinButtons 120 = [spot] := by
  have hFound : ∃ spot ∈ twinButtons.elements, spot.place = [0, 0] ∧
      (Target.of twinButtons spot 120 4).find.severity = .none ∧
      (Target.of twinButtons spot 120 4).find.locator.isChained = true := by decide +kernel
  obtain ⟨spot, hSpot, hPlace, hSeverity, hChained⟩ := hFound
  exact ⟨spot, hSpot, hPlace, hSeverity, hChained,
    fun d => resolvedSpots_find twinButtons spot hSpot 120 4 d hSeverity⟩

end StableLocator
