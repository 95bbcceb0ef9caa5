import StableLocator.Proofs.Locator.Fallback

/-!
# Exact texts suffice

A query for the texts of an element itself is tried with exact texts first, and with texts that need
only occur after that. The second try is never the one that succeeds: what the exact query accepts the
loose one accepts, too, and the element has its own texts exactly, so where it is the only one that
the loose query finds, it is the only one that the exact query finds.

* `Query.AsksOwn` — the query asks for the role and name, the label or an attribute of an element;
* `matchesIn_exact_of_loose` — one match of the loose query is one match of the exact query;
* `exactOrLoose?_eq` — the search for a query ends with the exact one, or with none;
* `find_exact` — so no text in a locator of full trust is a loose one.
-/

namespace StableLocator

/-- A query by this strategy compares texts, exactly or loosely. -/
def Strategy.comparesText : Strategy → Bool
  | .testId | .role | .path => false
  | _ => true

namespace Query

variable {q : Query} {lens : Lens} {s : Spot}

/-- The query asks for what an element has: its role and name, its label, or the text of one of three
attributes. -/
def AsksOwn (q : Query) (lens : Lens) (s : Spot) : Prop :=
  match q.strategy with
  | .roleName => s.role = some q.value ∧ q.name? = some (lens.name s)
  | .label => q.value = lens.label s
  | .placeholder => q.value = s.attrText "placeholder"
  | .altText => q.value = s.attrText "alt"
  | .title => q.value = s.attrText "title"
  | _ => False

/-- The query compares no text loosely. -/
def IsExact (q : Query) : Prop := q.strategy.comparesText = true → q.exact = true

/-- Where no text is compared, nothing is compared loosely. -/
theorem isExact_of_comparesText (h : q.strategy.comparesText = false) : q.IsExact := by
  intro hCompares
  rw [h] at hCompares
  cases hCompares

/-! ## Single elements -/

/-- A text that is the wanted one has it in it. -/
theorem compares_loose_of_exact (hFaults : lens.faults = []) {wanted actual : String}
    (h : ({ q with exact := true } : Query).compares lens wanted actual = .ok true) :
    ({ q with exact := false } : Query).compares lens wanted actual = .ok true := by
  rw [compares, hFaults, Faults.guard_nil, Except.ok.injEq] at h ⊢
  have hSame : actual = wanted := beq_iff_eq.mp h
  rw [hSame]
  exact Text.occurs_self wanted

/-- A text is the wanted one where it is the one that is asked for. -/
theorem compares_exact_self (hFaults : lens.faults = []) (text : String) :
    ({ q with exact := true } : Query).compares lens text text = .ok true := by
  rw [compares, hFaults, Faults.guard_nil]
  exact congrArg Except.ok (beq_self_eq_true text)

/-- What the exact query accepts the loose one accepts, too. -/
theorem accepts_loose_of_exact (hFaults : lens.faults = [])
    (h : ({ q with exact := true } : Query).accepts lens s = .ok true) :
    ({ q with exact := false } : Query).accepts lens s = .ok true := by
  have hText {wanted actual : String}
      (h : ({ q with exact := true } : Query).compares lens wanted actual = .ok true) :
      ({ q with exact := false } : Query).compares lens wanted actual = .ok true :=
    compares_loose_of_exact hFaults h
  have hRole (h : ({ q with exact := true } : Query).acceptsRole lens s = .ok true) :
      ({ q with exact := false } : Query).acceptsRole lens s = .ok true := by
    unfold acceptsRole at h ⊢
    split at h
    · rename_i hOwn
      rw [if_pos hOwn]
      cases hName : q.name? with
      | none => rfl
      | some name =>
        simp only [hName] at h
        exact hText h
    · cases h
  have hAttribute {name : String}
      (h : ({ q with exact := true } : Query).acceptsAttribute lens name s = .ok true) :
      ({ q with exact := false } : Query).acceptsAttribute lens name s = .ok true := by
    unfold acceptsAttribute at h ⊢
    split at h
    · exact hText h
    · cases h
  -- One case for each strategy; only those that compare texts look at how they are compared.
  unfold accepts at h ⊢
  cases hStrategy : q.strategy with
  | testId =>
    simp only [hStrategy] at h
    exact h
  | roleName | role =>
    simp only [hStrategy] at h
    exact hRole h
  | label | text =>
    simp only [hStrategy] at h
    exact hText h
  | placeholder | altText | title =>
    simp only [hStrategy] at h
    exact hAttribute h
  | path =>
    simp only [hStrategy] at h
    cases h

/-- An element that the loose query accepts is accepted by the exact one if that asks for what the
element has. -/
theorem accepts_exact_of_asksOwn (hFaults : lens.faults = []) (hOwn : q.AsksOwn lens s)
    (h : ({ q with exact := false } : Query).accepts lens s = .ok true) :
    ({ q with exact := true } : Query).accepts lens s = .ok true := by
  have hSelf (text : String) := compares_exact_self (q := q) hFaults text
  have hAttribute {name : String} (hValue : q.value = s.attrText name)
      (h : ({ q with exact := false } : Query).acceptsAttribute lens name s = .ok true) :
      ({ q with exact := true } : Query).acceptsAttribute lens name s = .ok true := by
    unfold acceptsAttribute at h ⊢
    split at h
    · rename_i value hAttr
      have hText : q.value = Text.collapse value := by
        rw [hValue, Spot.attrText, hAttr, Option.getD_some]
      rw [hText]
      exact hSelf _
    · cases h
  -- By every strategy that compares texts, the element has the very text that is asked for.
  unfold accepts at h ⊢
  unfold AsksOwn at hOwn
  cases hStrategy : q.strategy with
  | roleName =>
    simp only [hStrategy] at hOwn
    obtain ⟨hRole, hName⟩ := hOwn
    simp only [acceptsRole, hRole, if_pos, hName]
    exact hSelf _
  | label =>
    simp only [hStrategy] at hOwn
    simp only [hOwn]
    exact hSelf _
  | placeholder | altText | title =>
    simp only [hStrategy] at h hOwn
    exact hAttribute hOwn h
  | testId | role | text | path =>
    simp only [hStrategy] at hOwn

/-! ## All elements below a spot -/

/-- A query finds the visible elements that it accepts without a fault. -/
theorem finds_iff : q.finds lens s = true ↔ s.isVisible = true ∧ q.accepts lens s = .ok true := by
  rw [finds, Bool.and_eq_true]
  refine and_congr_right fun _ => ?_
  cases q.accepts lens s with
  | error message => simp [Except.toOption]
  | ok found => simp [Except.toOption]

/-- Where an element is the one match of a loose query for its own texts, it is the one match of the
exact query. -/
theorem matchesIn_exact_of_loose (hFaults : lens.faults = []) (hOwn : q.AsksOwn lens s) {root : Spot}
    (h : ({ q with exact := false } : Query).matchesIn lens root = [s]) :
    ({ q with exact := true } : Query).matchesIn lens root = [s] := by
  have hPath : q.strategy ≠ .path := by
    intro hPath
    simp only [AsksOwn, hPath] at hOwn
  have hSelf : s ∈ [s] := List.mem_cons_self
  rw [matchesIn, if_neg hPath] at h ⊢
  rw [← h, List.mem_filter, finds_iff] at hSelf
  have hExact : ({ q with exact := true } : Query).finds lens s = true :=
    finds_iff.mpr ⟨hSelf.2.1, accepts_exact_of_asksOwn hFaults hOwn hSelf.2.2⟩
  -- The exact query picks from what the loose one finds.
  have hAmong : root.descendants.filter (({ q with exact := true } : Query).finds lens) =
      (root.descendants.filter (({ q with exact := false } : Query).finds lens)).filter
        (({ q with exact := true } : Query).finds lens) := by
    rw [List.filter_filter]
    refine List.filter_congr fun x _ => ?_
    rw [Bool.eq_iff_iff, Bool.and_eq_true, finds_iff, finds_iff]
    constructor
    · intro hFinds
      exact ⟨hFinds, hFinds.1, accepts_loose_of_exact hFaults hFinds.2⟩
    · exact And.left
  rw [hAmong, h, List.filter_cons_of_pos hExact, List.filter_nil]

end Query

namespace Target

variable {t : Target} {q found : Query} {inside : Where} {wanted : Spot}

/-! ## Two tries -/

/-- Where the loose query for what an element has finds it alone, the exact query does. -/
theorem isUnique_exact_of_loose (hFaults : t.lens.faults = [])
    (hInside : ∀ a ∈ inside, a ∈ t.page.elements) (hWanted : wanted ∈ t.page.elements)
    (hOwn : q.AsksOwn t.lens wanted)
    (h : t.isUnique { q with exact := false } inside wanted = true) :
    t.isUnique { q with exact := true } inside wanted = true := by
  have hLoose := (isUnique_iff hInside hWanted).mp h
  exact (isUnique_iff hInside hWanted).mpr (Query.matchesIn_exact_of_loose hFaults hOwn hLoose)

/-- The second try changes nothing. -/
theorem exactOrLoose?_eq (hFaults : t.lens.faults = [])
    (hInside : ∀ a ∈ inside, a ∈ t.page.elements) (hWanted : wanted ∈ t.page.elements)
    (hOwn : q.AsksOwn t.lens wanted) :
    t.exactOrLoose? q inside wanted = t.proven? { q with exact := true } inside wanted := by
  rw [exactOrLoose?]
  cases hExact : t.proven? { q with exact := true } inside wanted with
  | some found => rfl
  | none =>
    -- If the loose query were proven, the exact one would be, too.
    have hScoped : ({ q with scope := scopeOf inside } : Query).AsksOwn t.lens wanted := hOwn
    have hUnique := isUnique_exact_of_loose hFaults hInside hWanted hScoped
    have hLoose : t.proven? { q with exact := false } inside wanted = none := by
      simp only [proven?] at hExact ⊢
      split at hExact
      · cases hExact
      · rename_i hNot
        exact if_neg fun hLoose => hNot (hUnique hLoose)
    rw [hLoose]
    rfl

/-- A query that was proven compares texts as it was asked to. -/
theorem isExact_of_proven? (hExact : q.IsExact) (h : t.proven? q inside wanted = some found) :
    found.IsExact := by
  simp only [proven?] at h
  split at h
  · rw [← Option.some.inj h]
    exact hExact
  · cases h

/-- If an element is asked for with what it has, the loose form is never needed: it finds no less than
the exact one. -/
theorem isExact_of_exactOrLoose? (hFaults : t.lens.faults = [])
    (hInside : ∀ a ∈ inside, a ∈ t.page.elements) (hWanted : wanted ∈ t.page.elements)
    (hOwn : q.AsksOwn t.lens wanted) (h : t.exactOrLoose? q inside wanted = some found) :
    found.IsExact := by
  rw [exactOrLoose?_eq hFaults hInside hWanted hOwn] at h
  exact isExact_of_proven? (fun _ => rfl) h

/-- The role and the name that an element is asked for are its own. -/
theorem asksOwn_of_roleAndName? {role name : String}
    (h : t.roleAndName? wanted = some (role, name)) :
    Query.AsksOwn { strategy := .roleName, value := role, name? := some name } t.lens wanted := by
  rcases roleAndName?_eq_some_iff.mp h with ⟨hRole, _, rfl, _⟩
  exact ⟨hRole, rfl⟩

/-- What is searched for an element compares no text loosely: a test id is no text, role and name are
asked for in two tries, and a short name is asked for exactly. -/
theorem isExact_of_stableQuery? (hFaults : t.lens.faults = [])
    (hInside : ∀ a ∈ inside, a ∈ t.page.elements) (hWanted : wanted ∈ t.page.elements)
    (h : t.stableQuery? inside wanted = some found) : found.IsExact := by
  simp only [stableQuery?, Option.orElse_eq_some, Option.bind_eq_bind,
    Option.bind_eq_some_iff] at h
  rcases h with ⟨value, _, h⟩ | ⟨_, ⟨⟨role, name⟩, hOwn, h⟩ | ⟨_, name, _, h⟩⟩
  · exact isExact_of_proven? (Query.isExact_of_comparesText rfl) h
  · exact isExact_of_exactOrLoose? hFaults hInside hWanted (asksOwn_of_roleAndName? hOwn) h
  · exact isExact_of_proven? (fun _ => rfl) h

/-- Inside an anchor the target is asked for exactly. -/
theorem isExact_of_childQuery? {ancestor : Spot} (hFaults : t.lens.faults = [])
    (hAncestor : ancestor ∈ t.page.elements) (hSpot : t.spot ∈ t.page.elements)
    (h : t.childQuery? ancestor = some found) : found.IsExact := by
  have hInside : ∀ a ∈ some ancestor, a ∈ t.page.elements := by simpa using hAncestor
  rw [childQuery?, Option.orElse_eq_some] at h
  rcases h with h | ⟨_, h⟩
  · exact isExact_of_stableQuery? hFaults hInside hSpot h
  · exact isExact_of_proven? (Query.isExact_of_comparesText rfl) h

/-! ## Findings -/

variable {f : Finding}

theorem isExact_finding {tier : Tier} {severity : Severity} (h : q.IsExact) :
    ∀ q' ∈ (finding tier q severity).locator.queries, q'.IsExact := by
  intro q' hq'
  rw [List.mem_singleton.mp hq']
  exact h

/-- A finding by an attribute of the element compares nothing loosely. -/
theorem isExact_of_byAttribute {tier : Tier} {strategy : Strategy} {name : String}
    (hFaults : t.lens.faults = []) (hSpot : t.spot ∈ t.page.elements)
    (hOwn : Query.AsksOwn { strategy, value := t.spot.attrText name } t.lens t.spot)
    (h : t.byAttribute tier strategy name = some f) : ∀ q ∈ f.locator.queries, q.IsExact := by
  simp only [byAttribute] at h
  split at h
  · cases h
  · obtain ⟨q, hq, rfl⟩ := Option.map_eq_some_iff.mp h
    exact isExact_finding (isExact_of_exactOrLoose? hFaults (by simp) hSpot hOwn hq)

/-- A chain compares nothing loosely, neither for the anchor nor for the child. -/
theorem isExact_of_chainBy? {ancestor : Spot} (hFaults : t.lens.faults = [])
    (hAncestor : ancestor ∈ t.page.elements) (hSpot : t.spot ∈ t.page.elements)
    (h : t.chainBy? ancestor = some f) : ∀ q ∈ f.locator.queries, q.IsExact := by
  obtain ⟨anchor, hAnchor, hFound⟩ := Option.bind_eq_some_iff.mp h
  obtain ⟨child, hChild, hFinding⟩ := Option.bind_eq_some_iff.mp hFound
  cases hFinding
  refine List.forall_mem_cons.mpr ⟨isExact_of_stableQuery? hFaults (by simp) hAncestor hAnchor, ?_⟩
  refine List.forall_mem_cons.mpr ⟨?_, nofun⟩
  exact isExact_of_childQuery? hFaults hAncestor hSpot hChild

/-- The only tier that compares texts loosely warns. -/
theorem isExact_of_tier {step : Tier} (hFaults : t.lens.faults = [])
    (hSpot : t.spot ∈ t.page.elements) (h : t.tier step = some f) (hSure : f.severity = .none) :
    ∀ q ∈ f.locator.queries, q.IsExact := by
  -- The tiers that compare texts ask for what the element has; the last two always warn.
  cases step with
  | testId =>
    obtain ⟨value, _, rfl⟩ := Option.map_eq_some_iff.mp h
    exact isExact_finding (Query.isExact_of_comparesText rfl)
  | roleName =>
    obtain ⟨⟨role, name⟩, hOwn, hFound⟩ := Option.bind_eq_some_iff.mp h
    dsimp only at hFound
    split at hFound
    · cases hFound
    · obtain ⟨q, hq, hFinding⟩ := Option.bind_eq_some_iff.mp hFound
      cases hFinding
      exact isExact_finding (isExact_of_exactOrLoose? hFaults (by simp) hSpot
        (asksOwn_of_roleAndName? hOwn) hq)
  | label =>
    dsimp only [tier, byLabel] at h
    split at h
    · cases h
    · obtain ⟨q, hq, rfl⟩ := Option.map_eq_some_iff.mp h
      have hOwn : Query.AsksOwn { strategy := .label, value := t.lens.label t.spot } t.lens t.spot :=
        rfl
      exact isExact_finding (isExact_of_exactOrLoose? hFaults (by simp) hSpot hOwn hq)
  | placeholder => exact isExact_of_byAttribute hFaults hSpot (by rfl) h
  | altText =>
    dsimp only [tier] at h
    split at h
    · exact isExact_of_byAttribute hFaults hSpot (by rfl) h
    · cases h
  | title => exact isExact_of_byAttribute hFaults hSpot (by rfl) h
  | role =>
    obtain ⟨role, _, hFound⟩ := Option.bind_eq_some_iff.mp h
    split at hFound
    · cases hFound
    · obtain ⟨q, hq, hFinding⟩ := Option.bind_eq_some_iff.mp hFound
      cases hFinding
      exact isExact_finding (isExact_of_proven? (Query.isExact_of_comparesText rfl) hq)
  | text =>
    obtain ⟨name, _, hFound⟩ := Option.bind_eq_some_iff.mp h
    obtain ⟨q, hq, hFinding⟩ := Option.bind_eq_some_iff.mp hFound
    cases hFinding
    exact isExact_finding (isExact_of_proven? (fun _ => rfl) hq)
  | ancestorChain =>
    obtain ⟨ancestor, hAncestor, hChain⟩ := List.exists_of_findSome?_eq_some h
    exact isExact_of_chainBy? hFaults (chainAncestors_subset hSpot hAncestor) hSpot hChain
  | textFallback =>
    obtain ⟨name, _, rfl⟩ := Option.map_eq_some_iff.mp h
    cases hSure
  | structuralPath =>
    dsimp only [tier, byPath] at h
    split at h
    · cases h
    · cases h
      cases hSure

end Target

/-- Of the two tries for the role and name, the label, or an attribute of an element, the loose one
never succeeds alone: where it is unique the exact one is, too, and the search ends with the exact one
or with none. So all texts in a locator of full trust are exact ones, those of an anchor and of what is
found inside it included. -/
theorem find_exact {page : Page} {spot : Spot} (hSpot : spot ∈ page.elements) (limit depth : Int) :
    let t := Target.of page spot limit depth
    (∀ (q : Query) (inside : Target.Where) (wanted : Spot), (∀ a ∈ inside, a ∈ page.elements) →
      wanted ∈ page.elements → q.AsksOwn t.lens wanted →
      (t.isUnique { q with exact := false } inside wanted = true →
        t.isUnique { q with exact := true } inside wanted = true) ∧
      t.exactOrLoose? q inside wanted = t.proven? { q with exact := true } inside wanted) ∧
    (t.find.severity = .none →
      ∀ q ∈ t.find.locator.queries, q.strategy.comparesText = true → q.exact = true) := by
  intro t
  have hFaults : t.lens.faults = [] := rfl
  refine ⟨fun q inside wanted hInside hWanted hOwn => ⟨?_, ?_⟩, fun hSure => ?_⟩
  · exact Target.isUnique_exact_of_loose hFaults hInside hWanted hOwn
  · exact Target.exactOrLoose?_eq hFaults hInside hWanted hOwn
  · rcases t.find_eq with ⟨step, hStep⟩ | hTag
    · exact Target.isExact_of_tier hFaults hSpot hStep hSure
    · -- The tag alone comes with a warning.
      rw [hTag] at hSure
      cases hSure

/-- Two menus of which the name of one occurs in the name of the other, with the same link. -/
def twinMenus : Page where
  nodes := ["Main", "Main menu"].map fun name =>
    .element "nav" [("aria-label", .single name)]
      [.element "a" [("href", .single "/")] [.text .plain "Home"]]

def homeLink : Query := { strategy := .roleName, value := "link", name? := some "Home" }

/-- The link of the first menu is found by the exact name of the menu, then by its own: inside the
menu its name is unique as a loose text, and so as an exact one. -/
theorem find_exact_twinMenus :
    ∃ menu ∈ twinMenus.elements, ∃ link ∈ twinMenus.elements, link.place = [0, 0] ∧
      (Target.of twinMenus link 120 4).isUnique { homeLink with exact := true } (some menu) link =
        true ∧
      (Target.of twinMenus link 120 4).find.locator.queries.map Query.value =
        ["navigation", "link"] ∧
      ∀ q ∈ (Target.of twinMenus link 120 4).find.locator.queries, q.exact = true := by
  have hFound : ∃ menu ∈ twinMenus.elements, ∃ link ∈ twinMenus.elements, link.place = [0, 0] ∧
      (link.role = some "link" ∧
        some "Home" = some ((Target.of twinMenus link 120 4).lens.name link)) ∧
      (Target.of twinMenus link 120 4).isUnique { homeLink with exact := false } (some menu) link =
        true ∧
      (Target.of twinMenus link 120 4).find.severity = .none ∧
      (Target.of twinMenus link 120 4).find.locator.queries.map Query.value =
        ["navigation", "link"] ∧
      ∀ q ∈ (Target.of twinMenus link 120 4).find.locator.queries,
        q.strategy.comparesText = true := by decide +kernel
  obtain ⟨menu, hMenu, link, hLink, hPlace, hOwn, hLoose, hSure, hValues, hTexts⟩ := hFound
  obtain ⟨hTries, hExact⟩ := find_exact hLink 120 4
  refine ⟨menu, hMenu, link, hLink, hPlace, ?_, hValues, fun q hq => hExact hSure q hq (hTexts q hq)⟩
  have hInside : ∀ a ∈ some menu, a ∈ twinMenus.elements := by
    rintro a ⟨⟩
    exact hMenu
  exact (hTries homeLink (some menu) link hInside hLink hOwn).1 hLoose

end StableLocator
