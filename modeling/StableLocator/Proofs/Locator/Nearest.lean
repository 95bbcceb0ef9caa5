import StableLocator.Proofs.Locator.Isolation

/-!
# The nearest anchor

A chain goes by the nearest of the ancestors that serve: the ancestor can be found in the page, and the
target can be found in the ancestor. To look at more ancestors changes nothing above this tier, and a
chain that was found stays the nearest one. So a search that goes deeper either ends as before, or it
finds a chain where there was a fallback only.

* `Target.Serves` — an ancestor that can be asked for, and in which the target can be asked for;
* `Target.isSome_chainBy?_iff` — the search by an ancestor succeeds just where the ancestor serves;
* `Target.chainAncestors_prefix` — the ancestors of a shorter search come first in a deeper one;
* `Target.tier_of_ne` — no other tier looks at the depth;
* `find_deeper` — the anchor of a chain, and the search with two depths.
-/

namespace StableLocator

namespace Target

variable {t : Target} {q found : Query} {inside : Where} {wanted a : Spot} {f : Finding}

/-! ## Ancestors that serve -/

/-- Where something that the element can be asked for finds it alone, the search does not end with
nothing. -/
theorem stableQuery?_ne_none (hInside : ∀ s ∈ inside, s ∈ t.page.elements)
    (hWanted : wanted ∈ t.page.elements) (hAsks : t.Asks wanted q)
    (hFinds : q.matchesIn t.lens (inside.getD t.page.root) = [wanted]) :
    t.stableQuery? inside wanted ≠ none := by
  have hProven : t.proven? q inside wanted = some { q with scope := scopeOf inside } :=
    (proven?_eq_some_iff hInside hWanted).mpr ⟨hFinds, rfl⟩
  intro hNone
  simp only [stableQuery?, exactOrLoose?, Option.orElse_eq_none, Option.bind_eq_bind,
    Option.bind_eq_none_iff] at hNone
  rcases hNone with ⟨hId, hRole, hText⟩
  -- One of the three ways, and of the two tries of the second, is the one that is proven.
  cases hAsks with
  | testId h =>
    rw [hId _ h] at hProven
    cases hProven
  | roleName hOwn hSome hName exact =>
    have hTries := hRole _ (roleAndName?_eq_some_iff.mpr ⟨hOwn, hSome, rfl, hName⟩)
    cases exact with
    | true =>
      rw [hTries.1] at hProven
      cases hProven
    | false =>
      rw [hTries.2] at hProven
      cases hProven
  | text hName hShort =>
    rw [hText _ (shortName?_eq_some_iff.mpr ⟨rfl, hName, hShort⟩)] at hProven
    cases hProven

/-- The ancestor can be asked for in the page and the target in the ancestor, so that each is found
alone; inside an ancestor the target may also be told by its segment. -/
structure Serves (t : Target) (a : Spot) : Prop where
  anchor : ∃ q, t.Asks a q ∧ q.matchesIn t.lens t.page.root = [a]
  child : ∃ q, (t.Asks t.spot q ∨ q = { strategy := .path, value := t.spot.segment }) ∧
    q.matchesIn t.lens a = [t.spot]

/-- An ancestor in which the target can be asked for offers some query for it. -/
theorem childQuery?_ne_none (ha : a ∈ t.page.elements) (hSpot : t.spot ∈ t.page.elements)
    (hAsks : t.Asks t.spot q ∨ q = { strategy := .path, value := t.spot.segment })
    (hFinds : q.matchesIn t.lens a = [t.spot]) : t.childQuery? a ≠ none := by
  have hInside : ∀ s ∈ some a, s ∈ t.page.elements := by simpa using ha
  intro hNone
  rw [childQuery?, Option.orElse_eq_none] at hNone
  rcases hAsks with hAsks | rfl
  · exact stableQuery?_ne_none hInside hSpot hAsks hFinds hNone.1
  · rw [(proven?_eq_some_iff hInside hSpot).mpr ⟨hFinds, rfl⟩] at hNone
    cases hNone.2

/-- What the search by an ancestor ends with: a query for the ancestor and one for the target in it. -/
theorem chainBy?_eq_some (ha : a ∈ t.page.elements) (hSpot : t.spot ∈ t.page.elements)
    (h : t.chainBy? a = some f) :
    t.Serves a ∧ f.severity = .none ∧ f.origin = .tier .ancestorChain ∧
      ∃ first second, f.locator.queries = [first, second] ∧
        t.Asks a first ∧ first.matchesIn t.lens t.page.root = [a] ∧
        second.scope = .within a.place ∧ second.matchesIn t.lens a = [t.spot] := by
  rcases Option.bind_eq_some_iff.mp h with ⟨anchor, hAnchor, hRest⟩
  rcases Option.bind_eq_some_iff.mp hRest with ⟨child, hChild, hFinding⟩
  cases hFinding
  rcases stableQuery?_eq_some (by simp) ha hAnchor with ⟨first, hFirst, hFindsFirst, rfl⟩
  rcases childQuery?_eq_some ha hSpot hChild with ⟨second, hSecond, hFindsSecond, rfl⟩
  have hScope : { first with scope := scopeOf none } = first := by
    have hPage : first.scope = scopeOf none := hFirst.scope_eq
    rw [← hPage]
  refine ⟨⟨⟨first, hFirst, hFindsFirst⟩, ⟨second, hSecond, hFindsSecond⟩⟩, rfl, rfl, ?_⟩
  refine ⟨first, { second with scope := .within a.place }, ?_, hFirst, hFindsFirst, rfl,
    hFindsSecond⟩
  rw [hScope]
  rfl

/-- The search by an ancestor succeeds just where the ancestor serves. -/
theorem isSome_chainBy?_iff (ha : a ∈ t.page.elements) (hSpot : t.spot ∈ t.page.elements) :
    (t.chainBy? a).isSome = true ↔ t.Serves a := by
  constructor
  · intro h
    rcases Option.isSome_iff_exists.mp h with ⟨f, hFound⟩
    exact (chainBy?_eq_some ha hSpot hFound).1
  · rintro ⟨⟨first, hFirst, hFindsFirst⟩, ⟨second, hSecond, hFindsSecond⟩⟩
    have hPage : ∀ s ∈ (none : Option Spot), s ∈ t.page.elements := by simp
    have hAnchor := stableQuery?_ne_none hPage ha hFirst hFindsFirst
    have hChild := childQuery?_ne_none ha hSpot hSecond hFindsSecond
    rcases Option.ne_none_iff_exists'.mp hAnchor with ⟨anchor, hAnchor⟩
    rcases Option.ne_none_iff_exists'.mp hChild with ⟨child, hChild⟩
    simp [chainBy?, hAnchor, hChild]

/-! ## Ancestors within reach -/

/-- The ancestors that a shorter search looks at come first in a deeper one. -/
theorem chainAncestors_prefix {deeper : Int} (h : t.depth ≤ deeper) :
    t.chainAncestors <+: ({ t with depth := deeper } : Target).chainAncestors :=
  List.take_prefix_take_left (Int.toNat_le_toNat h)

/-- An ancestor within reach stands below the page frame, less than `depth` elements up. -/
theorem ancestors_eq_of_chainAncestors_eq {nearer farther : List Spot}
    (h : t.chainAncestors = nearer ++ a :: farther) :
    (nearer.length : Int) < t.depth ∧ (∀ b ∈ nearer ++ [a], b.isPageFrame = false) ∧
      ∃ beyond, t.spot.ancestors = nearer ++ a :: beyond := by
  have hLength : (nearer ++ a :: farther).length ≤ t.depth.toNat := by
    rw [← h]
    exact List.length_take_le _ _
  have hBelow : ∀ b ∈ t.chainAncestors, b.isPageFrame = false := by
    intro b hb
    have hTaken : b ∈ t.spot.ancestors.takeWhile fun c => !c.isPageFrame := List.mem_of_mem_take hb
    simpa using List.all_eq_true.mp List.all_takeWhile b hTaken
  -- The ancestors of chains are the nearest ones: first up to the frame, then by number.
  have hPrefix : nearer ++ a :: farther <+: t.spot.ancestors := by
    rw [← h]
    exact (List.take_prefix _ _).trans (List.takeWhile_prefix _)
  refine ⟨?_, ?_, ?_⟩
  · rw [List.length_append, List.length_cons] at hLength
    omega
  · intro b hb
    have hFirst : nearer ++ [a] <+: nearer ++ a :: farther := ⟨farther, by simp⟩
    apply hBelow b
    rw [h]
    exact hFirst.subset hb
  · rcases hPrefix with ⟨outer, hOuter⟩
    refine ⟨farther ++ outer, ?_⟩
    rw [← hOuter, List.append_assoc, List.cons_append]

/-- The tier of chains ends with the nearest ancestor within reach that serves. -/
theorem byAncestor_eq_some (hSpot : t.spot ∈ t.page.elements) (h : t.byAncestor = some f) :
    ∃ nearer anchor farther, t.spot.ancestors = nearer ++ anchor :: farther ∧
      (nearer.length : Int) < t.depth ∧ (∀ b ∈ nearer ++ [anchor], b.isPageFrame = false) ∧
      (∀ b ∈ nearer, ¬t.Serves b) ∧ anchor ∈ t.page.elements ∧ t.chainBy? anchor = some f := by
  rcases List.findSome?_eq_some_iff.mp h with ⟨nearer, anchor, farther, hSplit, hFound, hNearer⟩
  have hPage : ∀ b ∈ nearer ++ anchor :: farther, b ∈ t.page.elements := by
    intro b hb
    rw [← hSplit] at hb
    exact chainAncestors_subset hSpot hb
  rcases ancestors_eq_of_chainAncestors_eq hSplit with ⟨hDepth, hFrame, beyond, hAncestors⟩
  refine ⟨nearer, anchor, beyond, hAncestors, hDepth, hFrame, ?_, hPage anchor (by simp), hFound⟩
  intro b hb hServes
  have hSome := (isSome_chainBy?_iff (hPage b (List.mem_append_left _ hb)) hSpot).mpr hServes
  rw [hNearer b hb] at hSome
  cases hSome

/-! ## Two depths -/

/-- No other tier looks at the depth. -/
theorem tier_of_ne {step : Tier} (h : step ≠ .ancestorChain) (t : Target) (deeper : Int) :
    ({ t with depth := deeper } : Target).tier step = t.tier step := by
  cases step with
  | ancestorChain => exact absurd rfl h
  | _ => rfl

/-- The tiers below the chains, each of which warns. -/
def fallbacks : List Tier := [.textFallback, .structuralPath]

/-- The ladder, taken apart at the chains. -/
theorem ladder_eq : Tier.ladder = Tier.before .ancestorChain ++ .ancestorChain :: fallbacks := rfl

/-- Some fallback is always found. -/
theorem exists_fallback (t : Target) :
    ∃ f, fallbacks.findSome? t.tier = some f ∧ f.severity = .warning ∧
      (f.origin = .tier .textFallback ∨ f.origin = .tier .structuralPath) := by
  have hPath : t.spot.structuralPath t.page.root ≠ "" := t.spot.structuralPath_ne_empty t.page.root
  cases hName : t.shortName? t.spot with
  | some name =>
    refine ⟨finding .textFallback { strategy := .text, value := name } .warning, ?_, rfl, .inl rfl⟩
    simp [fallbacks, tier, byLooseText, hName]
  | none =>
    refine ⟨finding .structuralPath
      { strategy := .path, value := t.spot.structuralPath t.page.root } .warning, ?_, rfl, .inr rfl⟩
    simp [fallbacks, tier, byLooseText, byPath, hName, hPath]

/-- Tiers other than the chains do not look at the number of ancestors. -/
theorem findSome?_tier_of_ne {steps : List Tier} (h : ∀ step ∈ steps, step ≠ .ancestorChain)
    (t : Target) (deeper : Int) :
    steps.findSome? ({ t with depth := deeper } : Target).tier = steps.findSome? t.tier := by
  induction steps with
  | nil => rfl
  | cons step steps ih =>
    rcases List.forall_mem_cons.mp h with ⟨hStep, hSteps⟩
    rw [List.findSome?_cons, List.findSome?_cons, tier_of_ne hStep, ih hSteps]

/-- Without a fault the search ends above the chains, with a chain, or with a fallback. -/
theorem find_eq_of_faults_nil (h : t.lens.faults = []) :
    t.find = (((Tier.before .ancestorChain).findSome? t.tier).or
      (t.byAncestor.or (fallbacks.findSome? t.tier))).getD t.byTag := by
  rw [find_of_faults_nil h, ladder_eq, List.findSome?_append, List.findSome?_cons]
  cases hChain : t.byAncestor <;> simp [tier, hChain]

end Target

/-- A chain goes by the nearest ancestor that serves, among the first `depth` ones below the nearest
page frame. A deeper search ends as a shorter one, unless that ended with a fallback that warns; then
it may end with a chain that does not warn instead. -/
theorem find_deeper {page : Page} {spot : Spot} (hSpot : spot ∈ page.elements) (limit : Int)
    {depth deeper : Int} (hDepth : depth ≤ deeper) :
    let t := Target.of page spot limit depth
    let t' := Target.of page spot limit deeper
    (t.find.origin = .tier .ancestorChain →
      ∃ nearer anchor farther, spot.ancestors = nearer ++ anchor :: farther ∧
        (nearer.length : Int) < depth ∧ (∀ a ∈ nearer ++ [anchor], a.isPageFrame = false) ∧
        t.Serves anchor ∧ (∀ a ∈ nearer, ¬t.Serves a) ∧
        t.find.severity = .none ∧
        ∃ first second, t.find.locator.queries = [first, second] ∧
          t.Asks anchor first ∧ first.matchesIn t.lens page.root = [anchor] ∧
          second.scope = .within anchor.place ∧ second.matchesIn t.lens anchor = [spot]) ∧
    (t'.find = t.find ∨
      (t.find.severity = .warning ∧
        (t.find.origin = .tier .textFallback ∨ t.find.origin = .tier .structuralPath)) ∧
      t'.find.severity = .none ∧ t'.find.origin = .tier .ancestorChain) := by
  intro t t'
  constructor
  · intro hOrigin
    rcases Target.exists_tier_of_faults_nil (t := t) rfl with ⟨step, hStep⟩
    have hChain : t.byAncestor = some t.find := by
      rw [(Target.tier_eq_some hStep).1] at hOrigin
      cases hOrigin
      exact hStep
    rcases Target.byAncestor_eq_some (t := t) hSpot hChain with
      ⟨nearer, anchor, farther, hAncestors, hReach, hFrame, hNearer, hAnchor, hFound⟩
    rcases Target.chainBy?_eq_some hAnchor hSpot hFound with ⟨hServes, hSure, _, hQueries⟩
    exact ⟨nearer, anchor, farther, hAncestors, hReach, hFrame, hServes, hNearer, hSure, hQueries⟩
  · have hFind := Target.find_eq_of_faults_nil (t := t) rfl
    have hFind' := Target.find_eq_of_faults_nil (t := t') rfl
    have hAbove : (Tier.before .ancestorChain).findSome? t'.tier =
        (Tier.before .ancestorChain).findSome? t.tier :=
      Target.findSome?_tier_of_ne (fun step hStep => Tier.ne_of_mem_before hStep) t deeper
    have hBelow : Target.fallbacks.findSome? t'.tier = Target.fallbacks.findSome? t.tier :=
      Target.findSome?_tier_of_ne (by decide) t deeper
    rw [hAbove, hBelow] at hFind'
    cases hFirst : (Tier.before .ancestorChain).findSome? t.tier with
    | some f =>
      -- A tier above the chains has the last word in both searches.
      left
      rw [hFind, hFind', hFirst]
      rfl
    | none =>
      rw [hFirst] at hFind hFind'
      cases hChain : t.byAncestor with
      | some f =>
        -- The nearest ancestor of the shorter search is the nearest one of the deeper search.
        have hDeeper : t'.byAncestor = some f :=
          (Target.chainAncestors_prefix (t := t) hDepth).findSome?_eq_some hChain
        left
        rw [hFind, hFind', hChain, hDeeper]
        rfl
      | none =>
        rcases Target.exists_fallback t with ⟨f, hFallback, hWarns, hOrigin⟩
        rw [hChain, hFallback] at hFind
        cases hDeeper : t'.byAncestor with
        | none =>
          left
          rw [hFind, hFind', hDeeper, hFallback]
          rfl
        | some g =>
          right
          rw [hDeeper] at hFind'
          rw [hFind, hFind']
          rcases Target.byAncestor_eq_some (t := t') hSpot hDeeper with
            ⟨_, anchor, _, _, _, _, _, hAnchor, hFound⟩
          rcases Target.chainBy?_eq_some hAnchor hSpot hFound with ⟨_, hSure, hChained, _⟩
          exact ⟨⟨hWarns, hOrigin⟩, hSure, hChained⟩

/-- Two parts of a page with the same button in a frame. -/
def framedTwins : Page where
  nodes := ["left", "right"].map fun part =>
    .element "section" [("data-testid", .single part)]
      [.element "div" [] [.element "button" [] [.text .plain "Go"]]]

def leftPart : Query := { strategy := .testId, value := "left" }

/-- From the first button the frame is in reach at once, but it does not serve. With the part in reach
there is a chain, which stays as it is in deeper searches. -/
theorem find_deeper_framedTwins :
    ∃ spot ∈ framedTwins.elements, spot.place = [0, 0, 0] ∧ (1 : Int) ≤ 2 ∧ (2 : Int) ≤ 4 ∧
      ((Target.of framedTwins spot 120 1).find.severity = .warning ∧
        (Target.of framedTwins spot 120 2).find.severity = .none ∧
        (Target.of framedTwins spot 120 2).find.origin = .tier .ancestorChain) ∧
      (∃ nearer anchor farther, spot.ancestors = nearer ++ anchor :: farther ∧
        (nearer.length : Int) < 2 ∧
        leftPart.matchesIn (Target.of framedTwins spot 120 2).lens framedTwins.root = [anchor] ∧
        (Target.of framedTwins spot 120 2).Serves anchor ∧
        ∀ a ∈ nearer, ¬(Target.of framedTwins spot 120 2).Serves a) ∧
      (Target.of framedTwins spot 120 4).find = (Target.of framedTwins spot 120 2).find := by
  have hFound : ∃ spot ∈ framedTwins.elements, spot.place = [0, 0, 0] ∧
      (Target.of framedTwins spot 120 1).find.origin = .tier .textFallback ∧
      (Target.of framedTwins spot 120 2).find.origin = .tier .ancestorChain ∧
      (Target.of framedTwins spot 120 2).find.locator.first = leftPart := by decide +kernel
  rcases hFound with ⟨spot, hSpot, hPlace, hShallow, hChain, hFirst⟩
  rcases find_deeper hSpot 120 (by decide : (1 : Int) ≤ 2) with ⟨_, hFrom⟩
  rcases find_deeper hSpot 120 (by decide : (2 : Int) ≤ 4) with ⟨hNearest, hStays⟩
  rcases hNearest hChain with ⟨nearer, anchor, farther, hAncestors, hReach, _, hServes, hNearer, hSure,
    first, second, hQueries, _, hFinds, _, _⟩
  rw [Locator.queries, List.cons.injEq] at hQueries
  rw [← hQueries.1, hFirst] at hFinds
  refine ⟨spot, hSpot, hPlace, by decide, by decide, ?_, ?_, ?_⟩
  · rcases hFrom with hSame | ⟨⟨hWarns, _⟩, hChained⟩
    · rw [hSame, hShallow] at hChain
      cases hChain
    · exact ⟨hWarns, hChained⟩
  · exact ⟨nearer, anchor, farther, hAncestors, hReach, hFinds, hServes, hNearer⟩
  · rcases hStays with hSame | ⟨⟨hWarns, _⟩, _⟩
    · exact hSame
    · rw [hSure] at hWarns
      cases hWarns

end StableLocator
