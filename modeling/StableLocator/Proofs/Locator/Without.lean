import StableLocator.Proofs.Locator.Path
import StableLocator.Proofs.Selector.Brackets

/-!
# Locators on a page without an attribute

The search for a locator takes the same way on a page with an attribute that nobody reads and on the page
without it. One selector of the search is not under its control: the segment of the element itself, whose
tag is written as it stands.

* `Query.matchesIn_without` — a query finds the same elements;
* `Spot.segment_without`, `Spot.structuralPath_without` — paths are written the same;
* `Spot.ignores_segment` — a tag without an opening bracket makes a segment that tests no attribute;
* `Target.find_without` — the search ends with the same locator.
-/

namespace StableLocator

variable {name : String}

/-! ## Queries -/

namespace Query

theorem acceptsTestId_without (hName : Unread name) (q : Query) (s : Spot) :
    q.acceptsTestId (s.without name) = q.acceptsTestId s := by
  simp (disch := decide) only [acceptsTestId, testIdNames, List.any_cons,
    List.any_nil, Spot.attrText_without hName]

/-- An unread attribute changes neither roles nor names. -/
theorem acceptsRole_without (hName : Unread name) (q : Query) (lens : Lens) (s : Spot) :
    q.acceptsRole (lens.without name) (s.without name) = q.acceptsRole lens s := by
  rw [acceptsRole, Spot.role_without hName, Lens.name_without hName]
  rfl

/-- Queries by an attribute that is read accept the same without an unread one. -/
theorem acceptsAttribute_without (hName : Unread name) (q : Query) (lens : Lens) {other : String}
    (h : other ∈ readNames) (s : Spot) :
    q.acceptsAttribute (lens.without name) other (s.without name) =
      q.acceptsAttribute lens other s := by
  rw [acceptsAttribute, Spot.attr?_without hName h]
  rfl

/-- Queries accept the same without an unread attribute. -/
theorem accepts_without (hName : Unread name) (q : Query) (lens : Lens) (s : Spot) :
    q.accepts (lens.without name) (s.without name) = q.accepts lens s := by
  unfold accepts
  cases q.strategy with
  | testId => exact congrArg Except.ok (acceptsTestId_without hName q s)
  | roleName => exact acceptsRole_without hName q lens s
  | role => exact acceptsRole_without hName q lens s
  | label => exact congrArg (q.compares lens q.value) (Lens.label_without hName lens s)
  | text => exact congrArg (q.compares lens q.value) (Lens.name_without hName lens s)
  | placeholder => exact acceptsAttribute_without hName q lens (by decide) s
  | altText => exact acceptsAttribute_without hName q lens (by decide) s
  | title => exact acceptsAttribute_without hName q lens (by decide) s
  | path => rfl

/-- Queries find the same without an unread attribute. -/
theorem finds_without (hName : Unread name) (q : Query) (lens : Lens) (s : Spot) :
    q.finds (lens.without name) (s.without name) = q.finds lens s := by
  rw [finds, Spot.isVisible_without hName, accepts_without hName, finds]

/-- A selector that ignores an attribute selects the same without it. -/
theorem selected_without (hName : Unread name) {selector : String}
    (h : Selector.Ignores name selector) (root : Spot) :
    selected selector (root.without name) = (selected selector root).map (Spot.without name) := by
  have hVisible : Spot.isVisible ∘ Spot.without name = Spot.isVisible :=
    funext (Spot.isVisible_without hName)
  rw [selected, selected, Spot.select?_without h]
  cases root.select? selector with
  | none => rfl
  | some spots => rw [Option.map_some, Option.getD_some, Option.getD_some, List.filter_map, hVisible]

/-- A query finds the same elements on the page without an attribute, as long as its selector does not
test the attribute, if it goes by one. -/
theorem matchesIn_without (hName : Unread name) {q : Query}
    (h : q.strategy = .path → Selector.Ignores name q.value) (lens : Lens) (root : Spot) :
    q.matchesIn (lens.without name) (root.without name) =
      (q.matchesIn lens root).map (Spot.without name) := by
  rw [matchesIn, matchesIn]
  split
  · rename_i hPath
    exact selected_without hName (h hPath) root
  · have hFinds : q.finds (lens.without name) ∘ Spot.without name = q.finds lens :=
      funext (finds_without hName q lens)
    rw [Spot.descendants_without, List.filter_map, hFinds]

end Query

theorem isOnly_without (name : String) (found : List Spot) (target : Spot) :
    isOnly (found.map (Spot.without name)) (target.without name) = isOnly found target := by
  simp only [isOnly, Verdict.of, List.isEmpty_map, List.all_map, Function.comp_def,
    Spot.same_without, List.length_map]

/-! ## Paths -/

namespace Spot

theorem tagSelector_without (name : String) (s : Spot) :
    (s.without name).tagSelector = s.tagSelector := rfl

theorem signature_without (hName : Unread name) (s : Spot) :
    (s.without name).signature = s.signature := by
  rw [signature, stableClasses, classTokens_without hName, name_without, signature, stableClasses]

theorem signatureSelector_without (hName : Unread name) (s : Spot) :
    (s.without name).signatureSelector = s.signatureSelector := by
  rw [signatureSelector, stableClasses, classTokens_without hName, tagSelector_without,
    signatureSelector, stableClasses]

theorem positionIn_without (name : String) (s : Spot) (row : List Spot) :
    (s.without name).positionIn (row.map (without name)) = s.positionIn row := by
  induction row with
  | nil => rfl
  | cons t row ih =>
    rw [List.map_cons, positionIn, positionIn, ih, same_without, name_without, tagSelector_without]

/-- A segment stays the same without an unread attribute. -/
theorem segment_without (hName : Unread name) (s : Spot) :
    (s.without name).segment = s.segment := by
  have hCount (row : List Spot) :
      (row.map (without name)).countP (fun t => t.signature = (s.without name).signature) =
        row.countP fun t => t.signature = s.signature := by
    simp only [List.countP_map, Function.comp_def, signature_without hName]
  rw [segment, segment, parentElement?_without]
  cases s.parentElement? with
  | none => exact signatureSelector_without hName s
  | some container =>
    simp only [Option.map_some, segmentIn, children_without, hCount, positionIn_without,
      signatureSelector_without hName]

/-- A segment tests no attribute, unless its tag is written like such a test. -/
theorem ignores_segment (hName : Unread name) {s : Spot} (hTag : '[' ∉ s.name.toList) :
    Selector.Ignores name s.segment := by
  have hSelector : '[' ∉ s.tagSelector.toList := by
    rw [tagSelector]
    split
    · decide
    · exact hTag
  refine Selector.ignores_of_not_mem hName ?_
  rw [toList_segment]
  exact Selector.Segment.not_mem_chars hSelector

/-- An id is unique with an unread attribute or without it. -/
theorem uniqueId?_without (hName : Unread name) (s root : Spot) :
    (s.without name).uniqueId? (root.without name) = s.uniqueId? root := by
  rw [uniqueId?, uniqueId?, attrText_without hName (by decide), attr?_without hName (by decide),
    select?_without (Selector.ignores_ofId hName _)]
  cases root.select? (Selector.ofId (s.attrText "id")) with
  | none => rfl
  | some spots =>
    rcases spots with - | ⟨found, - | ⟨other, rest⟩⟩
    · rfl
    · simp only [Option.map_some, List.map_cons, List.map_nil, same_without]
    · rfl

theorem lineage_without (name : String) (s : Spot) :
    (s.without name).lineage = s.lineage.map (without name) := by
  rw [lineage, ancestors_without, ← List.map_cons, List.takeWhile_map, ← List.map_reverse, lineage]
  rfl

theorem framePath_without (hName : Unread name) (s : Spot) :
    (s.without name).framePath = s.framePath := by
  have hSegments (row : List Spot) : (row.map (without name)).map segment = row.map segment := by
    rw [List.map_map]
    exact List.map_congr_left fun t _ => segment_without hName t
  have hFrame : (s.without name).frame? = s.frame?.map (without name) := by
    rw [frame?, ancestors_without, ← List.map_cons, List.find?_map, frame?]
    rfl
  have hBody : (s.without name).frame?.any (fun f => f.name == "body") =
      s.frame?.any fun f => f.name == "body" := by
    rw [hFrame, Option.any_map]
    rfl
  rw [framePath, framePath, lineage_without, hBody]
  cases s.lineage with
  | nil => rfl
  | cons t row =>
    have hRow := hSegments (t :: row)
    rw [List.map_cons] at hRow ⊢
    simp only [hRow]

theorem structuralPath_without (hName : Unread name) (s root : Spot) :
    (s.without name).structuralPath (root.without name) = s.structuralPath root := by
  rw [structuralPath, uniqueId?_without hName, framePath_without hName, structuralPath]

end Spot

/-! ## The ladder -/

namespace Target

def without (name : String) (t : Target) : Target :=
  ⟨t.spot.without name, t.page.without name, t.lens.without name, t.depth⟩

/-- The target on the page without the attribute, with the limits and faults of the other. -/
theorem of_without (hName : Unread name) (page : Page) (s : Spot) (limit depth : Int)
    (faults : Faults) :
    of (page.without name) (s.without name) limit depth faults =
      (of page s limit depth faults).without name := by
  rw [of, Lens.ofPage_without hName]
  rfl

@[simp] theorem spot_without (name : String) (t : Target) :
    (t.without name).spot = t.spot.without name := rfl

@[simp] theorem page_without (name : String) (t : Target) :
    (t.without name).page = t.page.without name := rfl

@[simp] theorem lens_without (name : String) (t : Target) :
    (t.without name).lens = t.lens.without name := rfl

@[simp] theorem depth_without (name : String) (t : Target) : (t.without name).depth = t.depth := rfl

theorem roleAndName?_without (hName : Unread name) (t : Target) (s : Spot) :
    (t.without name).roleAndName? (s.without name) = t.roleAndName? s := by
  simp only [roleAndName?, lens_without, Spot.role_without hName, Lens.name_without hName]

theorem shortName?_without (hName : Unread name) (t : Target) (s : Spot) :
    (t.without name).shortName? (s.without name) = t.shortName? s := by
  simp only [shortName?, lens_without, Lens.name_without hName, Lens.fits_without]

/-! ### Uniqueness -/

theorem scopeOf_without (name : String) (inside : Where) :
    scopeOf (inside.map (Spot.without name)) = scopeOf inside := by
  cases inside with
  | none => rfl
  | some s => exact congrArg Scope.within (s.place_without name)

/-- A query that does not select by the attribute is unique on both pages or on neither. -/
theorem isUnique_without (hName : Unread name) {q : Query}
    (h : q.strategy = .path → Selector.Ignores name q.value) (t : Target) (inside : Where)
    (wanted : Spot) :
    (t.without name).isUnique q (inside.map (Spot.without name)) (wanted.without name) =
      t.isUnique q inside wanted := by
  have hRoot : (inside.map (Spot.without name)).getD (t.page.without name).root =
      (inside.getD t.page.root).without name := by
    cases inside with
    | none => exact Page.root_without name t.page
    | some s => rfl
  rw [isUnique, lens_without, page_without, hRoot, Query.matchesIn_without hName h, isOnly_without,
    isUnique]

theorem proven?_without (hName : Unread name) {q : Query}
    (h : q.strategy = .path → Selector.Ignores name q.value) (t : Target) (inside : Where)
    (wanted : Spot) :
    (t.without name).proven? q (inside.map (Spot.without name)) (wanted.without name) =
      t.proven? q inside wanted := by
  have hUnique := isUnique_without (q := { q with scope := scopeOf inside }) hName h t inside wanted
  simp only [proven?, scopeOf_without, hUnique]

/-- The exact or the loose query is proven on both pages alike. -/
theorem exactOrLoose?_without (hName : Unread name) {q : Query}
    (h : q.strategy = .path → Selector.Ignores name q.value) (t : Target) (inside : Where)
    (wanted : Spot) :
    (t.without name).exactOrLoose? q (inside.map (Spot.without name)) (wanted.without name) =
      t.exactOrLoose? q inside wanted := by
  have hExact (exact : Bool) := proven?_without (q := { q with exact }) hName h t inside wanted
  rw [exactOrLoose?, hExact, hExact, exactOrLoose?]

/-! ### Single tiers -/

theorem exactOrLoose?_spot_without (hName : Unread name) {q : Query} (h : q.strategy ≠ .path)
    (t : Target) :
    (t.without name).exactOrLoose? q none (t.spot.without name) =
      t.exactOrLoose? q none t.spot :=
  exactOrLoose?_without hName (fun hPath => absurd hPath h) t none t.spot

theorem proven?_spot_without (hName : Unread name) {q : Query} (h : q.strategy ≠ .path)
    (t : Target) :
    (t.without name).proven? q none (t.spot.without name) = t.proven? q none t.spot :=
  proven?_without hName (fun hPath => absurd hPath h) t none t.spot

theorem prefersAltText_without (hName : Unread name) (t : Target) :
    (t.without name).prefersAltText = t.prefersAltText := by
  have hRead : "alt" ∈ readNames := by decide
  rw [prefersAltText, spot_without, Spot.isImageLike_without hName,
    Spot.attrText_without hName hRead, prefersAltText]

/-- A finding by an attribute that is read stays the same. -/
theorem byAttribute_without (hName : Unread name) (t : Target) (tier : Tier) (strategy : Strategy)
    (hStrategy : strategy ≠ .path) {other : String} (h : other ∈ readNames) :
    (t.without name).byAttribute tier strategy other = t.byAttribute tier strategy other := by
  have hFound (value : String) :=
    exactOrLoose?_spot_without (q := { strategy, value }) hName hStrategy t
  simp only [byAttribute, spot_without, Spot.attrText_without hName h, hFound]

theorem byTestId_without (hName : Unread name) (t : Target) :
    (t.without name).byTestId = t.byTestId := by
  have hUnique (value : String) : (t.without name).isUnique { strategy := .testId, value } none
      (t.spot.without name) = t.isUnique { strategy := .testId, value } none t.spot :=
    isUnique_without (q := { strategy := .testId, value }) hName nofun t none t.spot
  simp only [byTestId, spot_without, Spot.testId?_without hName, hUnique]

theorem byRoleName_without (hName : Unread name) (t : Target) :
    (t.without name).byRoleName = t.byRoleName := by
  have hFound (role text : String) := exactOrLoose?_spot_without
    (q := { strategy := .roleName, value := role, name? := some text }) hName nofun t
  simp only [byRoleName, spot_without, roleAndName?_without hName, prefersAltText_without hName,
    hFound]

theorem byLabel_without (hName : Unread name) (t : Target) :
    (t.without name).byLabel = t.byLabel := by
  have hFound (value : String) :=
    exactOrLoose?_spot_without (q := { strategy := .label, value }) hName nofun t
  simp only [byLabel, spot_without, lens_without, Lens.label_without hName,
    Spot.role_without hName, prefersAltText_without hName, hFound]

theorem byRole_without (hName : Unread name) (t : Target) :
    (t.without name).byRole = t.byRole := by
  have hFound (value : String) :=
    proven?_spot_without (q := { strategy := .role, value }) hName nofun t
  simp only [byRole, spot_without, Spot.role_without hName, hFound]

theorem byText_without (hName : Unread name) (t : Target) :
    (t.without name).byText = t.byText := by
  have hFound (value : String) :=
    proven?_spot_without (q := { strategy := .text, value, exact := true }) hName nofun t
  simp only [byText, spot_without, shortName?_without hName, hFound]

theorem byLooseText_without (hName : Unread name) (t : Target) :
    (t.without name).byLooseText = t.byLooseText := by
  rw [byLooseText, spot_without, shortName?_without hName, byLooseText]

theorem byPath_without (hName : Unread name) (t : Target) :
    (t.without name).byPath = t.byPath := by
  simp only [byPath, spot_without, page_without, Page.root_without,
    Spot.structuralPath_without hName]

/-! ### Ancestors -/

theorem chainAncestors_without (name : String) (t : Target) :
    (t.without name).chainAncestors = t.chainAncestors.map (Spot.without name) := by
  have hFrame : (fun a : Spot => !a.isPageFrame) ∘ Spot.without name = fun a => !a.isPageFrame := rfl
  rw [chainAncestors, spot_without, depth_without, Spot.ancestors_without, List.takeWhile_map,
    hFrame, ← List.map_take, chainAncestors]

/-- A stable query is the same on both pages. -/
theorem stableQuery?_without (hName : Unread name) (t : Target) (inside : Where) (wanted : Spot) :
    (t.without name).stableQuery? (inside.map (Spot.without name)) (wanted.without name) =
      t.stableQuery? inside wanted := by
  have hId (value : String) :=
    proven?_without (q := { strategy := .testId, value }) hName nofun t inside wanted
  have hRole (role text : String) := exactOrLoose?_without
    (q := { strategy := .roleName, value := role, name? := some text }) hName nofun t inside wanted
  have hText (value : String) := proven?_without
    (q := { strategy := .text, value, exact := true }) hName nofun t inside wanted
  simp only [stableQuery?, Spot.testId?_without hName, roleAndName?_without hName,
    shortName?_without hName, hId, hRole, hText]

/-- Inside an ancestor the segment of the element itself is asked as a selector. -/
theorem childQuery?_without (hName : Unread name) {t : Target}
    (h : Selector.Ignores name t.spot.segment) (ancestor : Spot) :
    (t.without name).childQuery? (ancestor.without name) = t.childQuery? ancestor := by
  have hStable : (t.without name).stableQuery? (some (ancestor.without name))
      (t.spot.without name) = t.stableQuery? (some ancestor) t.spot :=
    stableQuery?_without hName t (some ancestor) t.spot
  have hPath : (t.without name).proven? { strategy := .path, value := t.spot.segment }
      (some (ancestor.without name)) (t.spot.without name) =
        t.proven? { strategy := .path, value := t.spot.segment } (some ancestor) t.spot :=
    proven?_without (q := { strategy := .path, value := t.spot.segment }) hName (fun _ => h) t
      (some ancestor) t.spot
  rw [childQuery?, spot_without, hStable, Spot.segment_without hName, hPath, childQuery?]

/-- A chain by an ancestor is the same, if the segment of the target ignores the attribute. -/
theorem chainBy?_without (hName : Unread name) {t : Target}
    (h : Selector.Ignores name t.spot.segment) (ancestor : Spot) :
    (t.without name).chainBy? (ancestor.without name) = t.chainBy? ancestor := by
  have hAnchor : (t.without name).stableQuery? none (ancestor.without name) =
      t.stableQuery? none ancestor := stableQuery?_without hName t none ancestor
  rw [chainBy?, hAnchor, childQuery?_without hName h, chainBy?]

/-- The nearest ancestor that serves is the same. -/
theorem byAncestor_without (hName : Unread name) {t : Target}
    (h : Selector.Ignores name t.spot.segment) : (t.without name).byAncestor = t.byAncestor := by
  have hChain : (t.without name).chainBy? ∘ Spot.without name = t.chainBy? :=
    funext (chainBy?_without hName h)
  rw [byAncestor, chainAncestors_without, List.findSome?_map, hChain, byAncestor]

/-! ### The whole ladder -/

theorem tier_without (hName : Unread name) {t : Target} (h : Selector.Ignores name t.spot.segment)
    (step : Tier) : (t.without name).tier step = t.tier step := by
  cases step with
  | testId => exact byTestId_without hName t
  | roleName => exact byRoleName_without hName t
  | label => exact byLabel_without hName t
  | placeholder =>
    have hRead : "placeholder" ∈ readNames := by decide
    exact byAttribute_without hName t .placeholder .placeholder nofun hRead
  | altText =>
    have hRead : "alt" ∈ readNames := by decide
    rw [tier, spot_without, Spot.isImageLike_without hName,
      byAttribute_without hName t .altText .altText nofun hRead, tier]
  | title =>
    have hRead : "title" ∈ readNames := by decide
    exact byAttribute_without hName t .title .title nofun hRead
  | role => exact byRole_without hName t
  | text => exact byText_without hName t
  | ancestorChain => exact byAncestor_without hName h
  | textFallback => exact byLooseText_without hName t
  | structuralPath => exact byPath_without hName t

theorem climb_without (hName : Unread name) {t : Target}
    (h : Selector.Ignores name t.spot.segment) (steps : List Tier) :
    (t.without name).climb steps = t.climb steps := by
  induction steps with
  | nil => rfl
  | cons step rest ih =>
    have hTier : (t.without name).tier? step = t.tier? step := by
      rw [tier?, tier_without hName h]
      rfl
    rw [climb, hTier, ih, climb]

/-- The search for a locator ends with the same one on the page without an attribute. -/
theorem find_without (hName : Unread name) {t : Target}
    (h : Selector.Ignores name t.spot.segment) : (t.without name).find = t.find := by
  have hLadder : (t.without name).climbLadder = t.climbLadder := by
    rw [climbLadder, climb_without hName h]
    rfl
  have hTag : (t.without name).byTag = t.byTag := rfl
  rw [find, hLadder, hTag, find]

end Target
end StableLocator
