import StableLocator.Locator.Ladder
import StableLocator.Proofs.Locator.Path
import StableLocator.Proofs.Locator.Trust
import StableLocator.Proofs.Naming.Agreement

/-!
# Faults along the ladder

A fault at one tier, or before the ladder, does not reach what the other tiers find. The search ends
with the first finding before the fault if there is one, and with the tag alone otherwise; without
faults it never comes to the tag, because there is always a structural path.

* `Spot.structuralPath_ne_empty` — no element is without a structural path;
* `Target.tier_congr` — tiers depend on a lens by names, labels and matches only, and
  `Target.tier_of_spared` — so a fault elsewhere does not change them;
* `Target.climb_append` — a climb past tiers that no fault strikes;
* `Target.find_isolated` — what is found without a fault, and with one fault.
-/

namespace StableLocator

/-! ## Structural paths are texts -/

theorem Selector.ofId_ne_empty (id : String) : Selector.ofId id ≠ "" := by
  intro hEmpty
  have hChars := congrArg String.toList hEmpty
  unfold Selector.ofId at hChars
  split at hChars <;> simp at hChars

namespace Spot

theorem tagSelector_ne_empty (s : Spot) : s.tagSelector ≠ "" := by
  unfold tagSelector
  split
  · decide
  · rename_i hName
    exact hName

/-- Each segment of a path begins with a tag. -/
theorem tag_ne_empty_of_mem {s : Spot} {segment : Selector.Segment}
    (h : segment ∈ s.pathSegments) : segment.tag ≠ "" := by
  unfold pathSegments at h
  split at h
  · rw [List.mem_singleton.mp h]
    exact s.tagSelector_ne_empty
  · rcases List.mem_append.mp h with hFrame | hStep
    · split at hFrame
      · rw [List.mem_singleton.mp hFrame]
        decide
      · cases hFrame
    · obtain ⟨a, _, rfl⟩ := List.mem_map.mp hStep
      exact a.tagSelector_ne_empty

theorem framePath_ne_empty (s : Spot) : s.framePath ≠ "" := by
  intro hEmpty
  have hChars : Selector.chainChars s.pathSegments = [] := by
    rw [framePath_eq] at hEmpty
    exact String.ofList_eq_empty_iff.mp hEmpty
  cases hSegments : s.pathSegments with
  | nil => exact s.pathSegments_ne_nil hSegments
  | cons first rest =>
    have hTag : first.tag ≠ "" := tag_ne_empty_of_mem (hSegments ▸ List.mem_cons_self)
    rw [hSegments] at hChars
    have hFirst : first.tag.toList = [] := by
      cases rest <;> simp_all [Selector.chainChars, Selector.Segment.chars]
    exact hTag (String.toList_eq_nil_iff.mp hFirst)

/-- No element is without a structural path. -/
theorem structuralPath_ne_empty (s page : Spot) : s.structuralPath page ≠ "" := by
  rw [structuralPath]
  cases hId : s.uniqueId? page with
  | none => exact s.framePath_ne_empty
  | some selector =>
    obtain ⟨rfl, _⟩ := uniqueId?_eq_some hId
    exact Selector.ofId_ne_empty _

end Spot

/-! ## What tiers depend on -/

namespace Faults

/-- No fault strikes at a boundary. -/
def Spares (faults : Faults) (boundary : Boundary) : Prop :=
  ∀ f ∈ faults, f.boundary ≠ boundary

/-- A boundary that no fault strikes gives the value. -/
theorem Spares.guard {faults : Faults} {boundary : Boundary} (h : faults.Spares boundary)
    {α : Type} (value : α) : faults.guard boundary value = .ok value := by
  have hNone : faults.find? (fun f => f.boundary == boundary) = none := by
    rw [List.find?_eq_none]
    intro f hf hSame
    exact h f hf (eq_of_beq hSame)
  rw [Faults.guard, hNone]

theorem spares_nil (boundary : Boundary) : Faults.Spares [] boundary := nofun

/-- One fault strikes at one boundary only. -/
theorem spares_singleton {boundary other : Boundary} (message : String) (h : boundary ≠ other) :
    Faults.Spares [⟨boundary, message⟩] other := by
  intro f hf
  rw [List.mem_singleton.mp hf]
  exact h

end Faults

/-- Two lenses give the same labels and names, and queries find the same through them. -/
structure Lens.Alike (lens lens' : Lens) : Prop where
  fits : lens.fits = lens'.fits
  label : lens.label = lens'.label
  name : lens.name = lens'.name
  matchesIn : ∀ q : Query, q.matchesIn lens = q.matchesIn lens'

/-- A fault outside of reading and comparing texts leaves a lens as it is. -/
theorem Lens.alike_of_spares {faults : Faults} (hRead : faults.Spares .visibleText)
    (hCompare : faults.Spares .comparison) (page : Page) (limit : Int) :
    Lens.Alike (Lens.ofPage page limit faults) (Lens.ofPage page limit []) := by
  have hAgree (s : Spot) :
      Lens.Agree (Lens.ofPage page limit faults) (Lens.ofPage page limit []) s := by
    refine ⟨?_, rfl⟩
    funext t
    exact hRead.guard t.visibleText
  have hLabel : (Lens.ofPage page limit faults).label = (Lens.ofPage page limit []).label :=
    funext fun s => (hAgree s).label
  have hName : (Lens.ofPage page limit faults).name = (Lens.ofPage page limit []).name :=
    funext fun s => (hAgree s).name rfl
  refine ⟨rfl, hLabel, hName, fun q => ?_⟩
  have hCompares : q.compares (Lens.ofPage page limit faults) =
      q.compares (Lens.ofPage page limit []) := by
    funext wanted actual
    exact hCompare.guard (q.agrees wanted actual)
  have hAccepts : q.accepts (Lens.ofPage page limit faults) =
      q.accepts (Lens.ofPage page limit []) := by
    funext s
    simp only [Query.accepts, Query.acceptsRole, Query.acceptsAttribute, hCompares, hLabel, hName]
  have hFinds : q.finds (Lens.ofPage page limit faults) = q.finds (Lens.ofPage page limit []) := by
    funext s
    rw [Query.finds, hAccepts, Query.finds]
  funext root
  rw [Query.matchesIn, hFinds, Query.matchesIn]

namespace Target

section

variable (spot : Spot) (page : Page) (depth : Int) {lens lens' : Lens}

/-- Lenses that are alike agree on exact and loose queries, proofs and uniqueness. -/
theorem exactOrLoose?_congr (h : lens.Alike lens') :
    exactOrLoose? ⟨spot, page, lens, depth⟩ = exactOrLoose? ⟨spot, page, lens', depth⟩ ∧
      proven? ⟨spot, page, lens, depth⟩ = proven? ⟨spot, page, lens', depth⟩ ∧
      isUnique ⟨spot, page, lens, depth⟩ = isUnique ⟨spot, page, lens', depth⟩ := by
  have hUnique : isUnique ⟨spot, page, lens, depth⟩ = isUnique ⟨spot, page, lens', depth⟩ := by
    funext q inside wanted
    simp only [isUnique, h.matchesIn]
  have hProven : proven? ⟨spot, page, lens, depth⟩ = proven? ⟨spot, page, lens', depth⟩ := by
    funext q inside wanted
    simp only [proven?, hUnique]
  refine ⟨?_, hProven, hUnique⟩
  funext q inside wanted
  simp only [exactOrLoose?, hProven]

theorem roleAndName?_congr (h : lens.Alike lens') :
    roleAndName? ⟨spot, page, lens, depth⟩ = roleAndName? ⟨spot, page, lens', depth⟩ ∧
      shortName? ⟨spot, page, lens, depth⟩ = shortName? ⟨spot, page, lens', depth⟩ := by
  constructor
  · funext s
    simp only [roleAndName?, h.name]
  · funext s
    simp only [shortName?, h.name, h.fits]

theorem chainBy?_congr (h : lens.Alike lens') :
    chainBy? ⟨spot, page, lens, depth⟩ = chainBy? ⟨spot, page, lens', depth⟩ := by
  obtain ⟨hEither, hProven, _⟩ := exactOrLoose?_congr spot page depth h
  obtain ⟨hRole, hShort⟩ := roleAndName?_congr spot page depth h
  funext ancestor
  simp only [chainBy?, childQuery?, stableQuery?, hEither, hProven, hRole, hShort]

/-- A tier depends on a lens by what is found through it only. -/
theorem tier_congr (h : lens.Alike lens') (step : Tier) :
    tier ⟨spot, page, lens, depth⟩ step = tier ⟨spot, page, lens', depth⟩ step := by
  obtain ⟨hEither, hProven, hUnique⟩ :=
    exactOrLoose?_congr spot page depth h
  obtain ⟨hRole, hShort⟩ := roleAndName?_congr spot page depth h
  have hChain := chainBy?_congr spot page depth h
  have hAlt : prefersAltText ⟨spot, page, lens, depth⟩ = prefersAltText ⟨spot, page, lens', depth⟩ :=
    rfl
  cases step with
  | testId => simp only [tier, byTestId, hUnique]
  | roleName => simp only [tier, byRoleName, hRole, hEither, hAlt]
  | label => simp only [tier, byLabel, h.label, hEither, hAlt]
  | placeholder | altText | title => simp only [tier, byAttribute, hEither]
  | role => simp only [tier, byRole, hProven]
  | text => simp only [tier, byText, hShort, hProven]
  | ancestorChain => simp only [tier, byAncestor, chainAncestors, hChain]
  | textFallback => simp only [tier, byLooseText, hShort]
  | structuralPath => rfl

end

/-- Faults outside of reading and comparing texts do not change what a tier finds. -/
theorem tier_of_spared {faults : Faults} (hRead : faults.Spares .visibleText)
    (hCompare : faults.Spares .comparison) (page : Page) (spot : Spot) (limit depth : Int) :
    (Target.of page spot limit depth faults).tier = (Target.of page spot limit depth).tier := by
  funext step
  exact tier_congr spot page depth (Lens.alike_of_spares hRead hCompare page limit) step

/-- No tier ends with the tag alone. -/
theorem tier_eq_some {t : Target} {step : Tier} {f : Finding} (h : t.tier step = some f) :
    f.origin = .tier step ∧ f.severity ≠ .critical := by
  -- Each tier names itself in its finding, and none of them is critical: that is left to the tag.
  cases step with
  | testId =>
    obtain ⟨value, _, rfl⟩ := Option.map_eq_some_iff.mp h
    refine ⟨rfl, ?_⟩
    dsimp only [finding]
    split <;> nofun
  | roleName =>
    obtain ⟨⟨role, name⟩, _, hFound⟩ := Option.bind_eq_some_iff.mp h
    dsimp only at hFound
    split at hFound
    · cases hFound
    · obtain ⟨q, _, hFinding⟩ := Option.bind_eq_some_iff.mp hFound
      cases hFinding
      exact ⟨rfl, nofun⟩
  | label =>
    dsimp only [tier, byLabel] at h
    split at h
    · cases h
    · obtain ⟨q, _, rfl⟩ := Option.map_eq_some_iff.mp h
      exact ⟨rfl, nofun⟩
  | placeholder | title =>
    dsimp only [tier, byAttribute] at h
    split at h
    · cases h
    · obtain ⟨q, _, rfl⟩ := Option.map_eq_some_iff.mp h
      exact ⟨rfl, nofun⟩
  | altText =>
    dsimp only [tier, byAttribute] at h
    split at h
    · split at h
      · cases h
      · obtain ⟨q, _, rfl⟩ := Option.map_eq_some_iff.mp h
        exact ⟨rfl, nofun⟩
    · cases h
  | role =>
    obtain ⟨role, _, hFound⟩ := Option.bind_eq_some_iff.mp h
    split at hFound
    · cases hFound
    · obtain ⟨q, _, hFinding⟩ := Option.bind_eq_some_iff.mp hFound
      cases hFinding
      exact ⟨rfl, nofun⟩
  | text =>
    obtain ⟨name, _, hFound⟩ := Option.bind_eq_some_iff.mp h
    obtain ⟨q, _, hFinding⟩ := Option.bind_eq_some_iff.mp hFound
    cases hFinding
    exact ⟨rfl, nofun⟩
  | ancestorChain =>
    obtain ⟨ancestor, _, hChain⟩ := List.exists_of_findSome?_eq_some h
    obtain ⟨anchor, _, hFound⟩ := Option.bind_eq_some_iff.mp hChain
    obtain ⟨child, _, hFinding⟩ := Option.bind_eq_some_iff.mp hFound
    cases hFinding
    exact ⟨rfl, nofun⟩
  | textFallback =>
    obtain ⟨name, _, rfl⟩ := Option.map_eq_some_iff.mp h
    exact ⟨rfl, nofun⟩
  | structuralPath =>
    dsimp only [tier, byPath] at h
    split at h
    · cases h
    · cases h
      exact ⟨rfl, nofun⟩

end Target

/-! ## Climbing past faults -/

namespace Tier

def before (step : Tier) : List Tier := ladder.takeWhile fun earlier => decide (earlier ≠ step)

/-- The ladder is what stands before a tier, the tier, and the rest. -/
theorem exists_ladder_eq (step : Tier) : ∃ rest, ladder = step.before ++ step :: rest := by
  cases step <;> exact ⟨_, rfl⟩

/-- A tier does not stand before itself. -/
theorem ne_of_mem_before {step earlier : Tier} (h : earlier ∈ step.before) : earlier ≠ step :=
  of_decide_eq_true (List.all_eq_true.mp List.all_takeWhile earlier h)

end Tier

namespace Target

variable {t : Target}

/-- A climb past tiers that no fault strikes ends with the first finding among them, or goes on. -/
theorem climb_append {before : List Tier} (h : ∀ step ∈ before, t.lens.faults.Spares (.tier step))
    (rest : List Tier) : t.climb (before ++ rest) =
      match before.findSome? t.tier with
      | some f => .ok (some f)
      | none => t.climb rest := by
  induction before with
  | nil => rfl
  | cons step before ih =>
    have hTier : t.tier? step = .ok (t.tier step) :=
      (h step List.mem_cons_self).guard (t.tier step)
    rw [List.cons_append, climb, hTier, List.findSome?_cons]
    cases t.tier step with
    | some f => rfl
    | none => exact ih fun step' hStep => h step' (List.mem_cons_of_mem _ hStep)

/-- What the climb ends with, or the tag: a fault at a tier is answered inside the ladder. -/
def climbed (t : Target) : Finding :=
  match t.climb Tier.ladder with
  | .ok (some f) => f
  | _ => t.byTag

/-- The search has two boundaries, the one of the ladder around those of its tiers, and answers a
fault at either with the tag. -/
theorem find_eq_climbed (t : Target) : t.find =
    match t.lens.faults.guard .ladder t.climbed with
    | .ok f => f
    | .error _ => t.byTag := by
  unfold find climbLadder climbed Faults.guard
  cases t.lens.faults.find? (fun f => f.boundary == .ladder) with
  | some f => rfl
  | none => rfl

/-- Without a fault at the ladder as a whole, its outcome is that of the climb. -/
theorem find_of_spared (h : t.lens.faults.Spares .ladder) : t.find = t.climbed := by
  rw [find_eq_climbed, h.guard]

/-- Without a fault the first tier that finds something has the last word. -/
theorem find_of_faults_nil (h : t.lens.faults = []) :
    t.find = (Tier.ladder.findSome? t.tier).getD t.byTag := by
  have hSpared : ∀ step ∈ Tier.ladder, t.lens.faults.Spares (.tier step) := fun step _ =>
    h ▸ Faults.spares_nil (.tier step)
  have hClimb := climb_append hSpared []
  rw [List.append_nil] at hClimb
  rw [find_of_spared (h ▸ Faults.spares_nil .ladder), climbed, hClimb]
  cases Tier.ladder.findSome? t.tier <;> rfl

/-- There is always a structural path, so without a fault some tier has the last word. -/
theorem exists_tier_of_faults_nil (h : t.lens.faults = []) : ∃ step, t.tier step = some t.find := by
  have hPath : t.tier .structuralPath ≠ none := by
    have hText := t.spot.structuralPath_ne_empty t.page.root
    simp [tier, byPath, hText]
  rw [find_of_faults_nil h]
  cases hFirst : Tier.ladder.findSome? t.tier with
  | none => exact absurd (List.findSome?_eq_none_iff.mp hFirst .structuralPath (by decide)) hPath
  | some f =>
    obtain ⟨step, _, hStep⟩ := List.exists_of_findSome?_eq_some hFirst
    exact ⟨step, hStep⟩

/-- A finding before a tier is what the search ends with if no fault strikes. -/
theorem getD_findSome?_before (h : t.lens.faults = []) (step : Tier) (other : Finding) :
    (step.before.findSome? t.tier).getD other =
      if step.before.any fun earlier => (t.tier earlier).isSome then t.find else other := by
  obtain ⟨rest, hLadder⟩ := step.exists_ladder_eq
  rw [find_of_faults_nil h, hLadder, List.findSome?_append]
  cases hFirst : step.before.findSome? t.tier with
  | some f =>
    obtain ⟨earlier, hMem, hFound⟩ := List.exists_of_findSome?_eq_some hFirst
    rw [if_pos (List.any_eq_true.mpr ⟨earlier, hMem, by rw [hFound]; rfl⟩)]
    rfl
  | none =>
    rw [if_neg]
    · rfl
    · rw [List.any_eq_true]
      rintro ⟨earlier, hMem, hFound⟩
      rw [List.findSome?_eq_none_iff.mp hFirst earlier hMem] at hFound
      cases hFound

/-- A fault at one tier is answered with the first finding before it, and with the tag if there is
none. -/
theorem find_of_fault_at_tier (page : Page) (spot : Spot) (limit depth : Int) (step : Tier)
    (message : String) :
    let t := Target.of page spot limit depth
    (Target.of page spot limit depth [⟨.tier step, message⟩]).find =
      (step.before.findSome? t.tier).getD t.byTag := by
  intro t
  have hSpared (boundary : Boundary) (h : Boundary.tier step ≠ boundary) :
      Faults.Spares [⟨.tier step, message⟩] boundary :=
    Faults.spares_singleton message h
  have hTier := tier_of_spared (hSpared .visibleText (by simp)) (hSpared .comparison (by simp)) page
    spot limit depth
  obtain ⟨rest, hLadder⟩ := step.exists_ladder_eq
  have hEarlier : ∀ earlier ∈ step.before, Faults.Spares [⟨.tier step, message⟩] (.tier earlier) := by
    intro earlier hMem
    exact hSpared _ fun hSame => Tier.ne_of_mem_before hMem (Boundary.tier.inj hSame).symm
  have hClimb := climb_append (t := Target.of page spot limit depth [⟨.tier step, message⟩])
    hEarlier (step :: rest)
  have hStruck : (Target.of page spot limit depth [⟨.tier step, message⟩]).climb (step :: rest) =
      .error message := by
    simp [climb, tier?, Target.of, Lens.ofPage, Faults.guard, bind, Except.bind]
  rw [← hLadder, hTier, hStruck] at hClimb
  rw [find_of_spared (hSpared .ladder (by simp)), climbed, hClimb]
  cases step.before.findSome? t.tier <;> rfl

/-- All dialects write a query by path alone in the same way. -/
theorem render_path (path : String) (d : Dialect) :
    Locator.render ⟨{ strategy := .path, value := path }, []⟩ d =
      "page.locator(" ++ quoteText path ++ ")" := by
  have hMethod : Query.method { strategy := .path, value := path } d = "locator" := by
    simp only [Query.method, Strategy.method]
    split
    · decide
    · rfl
  have hOptions : Query.options { strategy := .path, value := path } = [] := rfl
  have hWords : "page.locator(".toList = "page".toList ++ '.' :: ("locator".toList ++ "(".toList) := by
    decide
  apply String.toList_inj.mp
  rw [Locator.toList_render, String.toList_append, String.toList_append, hWords]
  simp [Locator.queries, Query.render, hMethod, hOptions]

/-- Without a fault the search ends at one of the tiers, and never with the tag alone. A fault at one
tier changes nothing if a tier before it finds something, and leaves the tag alone otherwise; a fault
before the ladder always leaves the tag alone. Whatever faults there are, the search ends with what a
tier finds or with the tag. -/
theorem find_isolated (page : Page) (spot : Spot) (limit depth : Int) :
    let t := Target.of page spot limit depth
    let struck := fun boundary message => Target.of page spot limit depth [⟨boundary, message⟩]
    let tagAlone : Finding :=
      ⟨⟨{ strategy := .path, value := if spot.name = "" then "*" else spot.name }, []⟩, .critical, .tag⟩
    (spot.structuralPath page.root ≠ "" ∧ t.find.severity ≠ .critical ∧ t.find.origin ≠ .tag) ∧
      (∀ step message, (struck (.tier step) message).find =
        if step.before.any fun earlier => (t.tier earlier).isSome then t.find else tagAlone) ∧
      (∀ message, (struck .ladder message).find = tagAlone) ∧
      (∀ faults, let t := Target.of page spot limit depth faults
        t.find = tagAlone ∨ ∃ step, t.tier step = some t.find) ∧
      ∀ d : Dialect, tagAlone.locator.render d =
        "page.locator(" ++ quoteText (if spot.name = "" then "*" else spot.name) ++ ")" := by
  intro t struck tagAlone
  have hTag (faults : Faults) : (Target.of page spot limit depth faults).byTag = tagAlone := rfl
  -- Without faults some tier gives a finding: the structural path at the latest.
  refine ⟨⟨spot.structuralPath_ne_empty page.root, ?_⟩, ?_, ?_, ?_, ?_⟩
  · obtain ⟨step, hStep⟩ := exists_tier_of_faults_nil (t := t) rfl
    obtain ⟨hOrigin, hSeverity⟩ := tier_eq_some hStep
    refine ⟨hSeverity, ?_⟩
    rw [hOrigin]
    nofun
  · intro step message
    rw [find_of_fault_at_tier, getD_findSome?_before rfl, hTag]
  · intro message
    rw [find_eq_climbed]
    rfl
  · intro faults
    exact (find_eq _).symm
  · exact render_path spot.tagSelector

end Target
end StableLocator
