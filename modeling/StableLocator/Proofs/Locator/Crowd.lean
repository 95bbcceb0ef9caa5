import StableLocator.Proofs.Locator.Path
import StableLocator.Proofs.Locator.Trust
import StableLocator.Proofs.Markup.Paragraph

/-!
# Paths that no selector can hold

A selector makes a limited number of tests, and a path makes one for each tag, stable class and
position in it. A path beyond the limit is refused when it is resolved, although it is what was found
for its element.

* `resolvedSpots_find_of_large` — a path that no selector can hold resolves to nothing;
* `crowdedPage` — a page with one paragraph that has many classes;
* `find_crowdedSpot` — what is found for the paragraph is its path;
* `resolvedSpots_find_crowded` — with as many classes as a selector may have tests it is not found
  again.
-/

namespace StableLocator

/-- The element and those around it have tidy attributes. -/
theorem Page.Tidy.around {page : Page} (h : page.Tidy) {spot : Spot} (hSpot : spot ∈ page.elements)
    (hPlain : ∀ a ∈ spot :: spot.ancestors, a.Plain) :
    ∀ a ∈ spot :: spot.ancestors, a.attrs.Tidy ∧ a.Plain := by
  intro a ha
  refine ⟨h a ?_, hPlain a ha⟩
  rcases List.mem_cons.1 ha with rfl | ha
  · exact hSpot
  · exact Page.mem_elements_of_mem_ancestors hSpot ha

/-- A path that no selector can hold resolves to nothing. -/
theorem resolvedSpots_find_of_large {page : Page} (hTidy : page.Tidy) {spot : Spot}
    (hSpot : spot ∈ page.elements) (hPlain : ∀ a ∈ spot :: spot.ancestors, a.Plain)
    (limit depth : Int) (d : Dialect)
    (hPath : (Target.of page spot limit depth).byPath =
      some (Target.of page spot limit depth).find)
    (hId : spot.uniqueId? page.root = none)
    (hLarge : ¬spot.PathFits) :
    resolvedSpots ((Target.of page spot limit depth).find.locator.render d) page limit = [] := by
  have hNone : page.root.select? (spot.structuralPath page.root) = none := by
    rw [Spot.structuralPath, hId, Option.getD_none]
    exact Spot.select?_framePath_eq_none
      (fun a ha => hTidy.around hSpot hPlain a (Spot.mem_of_mem_cons_lineage ha)) hLarge
  -- The finding stands in the goal and in `hPath`, and only the latter says what it is.
  generalize (Target.of page spot limit depth).find = f at hPath ⊢
  simp only [Target.byPath] at hPath
  split at hPath
  · cases hPath
  · rw [Option.some.injEq] at hPath
    subst hPath
    have hSays : ∀ q ∈ (Target.finding .structuralPath
        { strategy := .path, value := spot.structuralPath page.root } .warning).locator.queries,
        q.SaysAll := by
      intro q hq
      rw [List.mem_singleton.1 hq]
      exact Target.saysAll_of_ne (by simp [Target.finding])
    rw [Target.of, resolvedSpots_render hSays, Target.finding, Locator.queries, chainMatches_cons]
    simp [follow, Query.matchesIn, Query.selected, hNone]

/-! ## Keys -/

/-- A class token of more than two ASCII letters and digits. -/
structure IsKey (token : String) : Prop where
  long : 2 < token.length
  plain : ∀ c ∈ token.toList, c.isAlphanum = true

namespace IsKey

variable {token : String}

/-- The characters of a key are letters and digits. -/
theorem ne_of_mem (h : IsKey token) {c d : Char} (hc : c ∈ token.toList)
    (hd : d.isAlphanum = false) : c ≠ d := by
  rintro rfl
  rw [h.plain c hc] at hd
  cases hd

theorem isBlank_of_mem (h : IsKey token) {c : Char} (hc : c ∈ token.toList) :
    Text.isBlank c = false := by
  have hRange := Text.toNat_of_isAlphanum (h.plain c hc)
  simp [Text.isBlank]
  omega

theorem isWord (h : IsKey token) : Text.IsWord token.toList := by
  refine ⟨?_, fun c hc => h.isBlank_of_mem hc⟩
  intro hNil
  have hLong := h.long
  rw [← String.length_toList, hNil] at hLong
  exact absurd hLong (by decide)

/-- A key is stable: it is long enough, and no tool made it up. -/
theorem isStable (h : IsKey token) : isStableToken token = true := by
  have hColon : ':' ∉ token.toList := fun hc => h.ne_of_mem hc (by decide) rfl
  have hBracket : '[' ∉ token.toList := fun hc => h.ne_of_mem hc (by decide) rfl
  simp [isStableToken, Text.trim_of_isWord h.isWord, h.long, hColon, hBracket]

end IsKey

/-- Different words are clean already. -/
theorem cleanTokens_eq_self {tokens : List String} (hWords : ∀ t ∈ tokens, Text.IsWord t.toList)
    (hNodup : tokens.Nodup) : cleanTokens tokens = tokens := by
  -- What is kept so far is a variable, as it grows with each token.
  have hFold : ∀ tokens kept : List String, (∀ t ∈ tokens, Text.IsWord t.toList) →
      (kept ++ tokens).Nodup → tokens.foldl (fun kept token =>
        let clean := Text.trim token
        if clean = "" ∨ clean ∈ kept then kept else kept ++ [clean]) kept = kept ++ tokens := by
    intro tokens
    induction tokens with
    | nil => exact fun kept _ _ => (List.append_nil kept).symm
    | cons token tokens ih =>
      intro kept hWords hNodup
      have hWord := hWords token List.mem_cons_self
      have hSome : token ≠ "" := by
        rintro rfl
        exact hWord.1 rfl
      have hNew : token ∉ kept := fun hKept =>
        (List.nodup_append.1 hNodup).2.2 token hKept token List.mem_cons_self rfl
      have hRest := ih (kept ++ [token]) (fun t ht => hWords t (List.mem_cons_of_mem _ ht))
        (by simpa using hNodup)
      rw [List.foldl_cons]
      simp only [Text.trim_of_isWord hWord, hSome, hNew, or_self, if_false]
      simpa using hRest
  exact hFold tokens [] hWords hNodup

/-- Different keys are all stable. -/
theorem stableTokens_eq_self {tokens : List String} (hKeys : ∀ t ∈ tokens, IsKey t)
    (hNodup : tokens.Nodup) : stableTokens tokens = tokens := by
  rw [stableTokens, cleanTokens_eq_self (fun t ht => (hKeys t ht).isWord) hNodup]
  exact List.filter_eq_self.2 fun t ht => (hKeys t ht).isStable

/-! ## The crowded paragraph -/

/-- A page with one empty paragraph that has these classes. -/
def crowdedPage (classes : List String) : Page :=
  ⟨[.element "p" [("class", .tokens classes)] []], "", ""⟩

def crowdedSpot (classes : List String) : Spot :=
  ⟨"p", [("class", .tokens classes)], [], .inside "[document]" [] [] [] .document⟩

variable {classes : List String}

theorem elements_crowdedPage : (crowdedPage classes).elements = [crowdedSpot classes] := rfl

theorem mem_elements_crowdedPage : crowdedSpot classes ∈ (crowdedPage classes).elements := by
  rw [elements_crowdedPage]
  exact List.mem_cons_self

theorem name_crowdedSpot : (crowdedSpot classes).name = "p" := by
  have hLower : Text.lower "p" = "p" := by decide
  exact hLower

theorem ancestors_crowdedSpot : (crowdedSpot classes).ancestors = [] := rfl

theorem lookup_crowdedSpot {name : String} (h : name ≠ "class") :
    (crowdedSpot classes).attrs.lookup name = none := by
  rw [crowdedSpot, List.lookup_cons, beq_eq_false_iff_ne.2 h]
  rfl

theorem attr?_crowdedSpot {name : String} (h : name ≠ "class") :
    (crowdedSpot classes).attr? name = none := by
  rw [Spot.attr?, Attributes.text?, lookup_crowdedSpot h]
  rfl

theorem attrText_crowdedSpot {name : String} (h : name ≠ "class") :
    (crowdedSpot classes).attrText name = "" := by
  rw [Spot.attrText, attr?_crowdedSpot h]
  rfl

theorem hidesSelf_crowdedSpot : (crowdedSpot classes).hidesSelf = false := by
  have hShown : Visibility.isUnrendered (crowdedSpot classes).tag = false := by
    have hTag : Visibility.isUnrendered "p" = false := by decide
    exact hTag
  have hInput : Visibility.isHiddenInput (crowdedSpot classes).tag (crowdedSpot classes).attrs =
      false := by
    have hTag : (Text.lower "p" == "input") = false := by decide
    rw [Visibility.isHiddenInput, crowdedSpot, hTag, Bool.false_and]
  simp [Spot.hidesSelf, Visibility.hidesSelf, hShown, hInput, Attributes.text?, Attributes.has,
    lookup_crowdedSpot, Visibility.stampName]

theorem isVisible_crowdedSpot : (crowdedSpot classes).isVisible = true := by
  have hShown : Visibility.isUnrendered (crowdedSpot classes).tag = false := by
    have hTag : Visibility.isUnrendered "p" = false := by decide
    exact hTag
  have hElement : (crowdedSpot classes).isDocument = false := rfl
  simp [Spot.isVisible, hElement, hShown, attr?_crowdedSpot, Visibility.stampName,
    hidesSelf_crowdedSpot, ancestors_crowdedSpot]

theorem plain_crowdedSpot (hKeys : ∀ t ∈ classes, IsKey t) : (crowdedSpot classes).Plain where
  tag := by
    rw [name_crowdedSpot]
    exact ⟨'p', [], rfl, by decide, by simp⟩
  classes := by
    intro token hToken c hc hNull
    have hRange := Text.toNat_of_isAlphanum ((hKeys token hToken).plain c hc)
    omega

theorem around_crowdedSpot (hKeys : ∀ t ∈ classes, IsKey t) :
    ∀ a ∈ crowdedSpot classes :: (crowdedSpot classes).ancestors, a.Plain := by
  intro a ha
  rw [ancestors_crowdedSpot, List.mem_singleton] at ha
  exact ha ▸ plain_crowdedSpot hKeys

theorem uniqueId?_crowdedSpot : (crowdedSpot classes).uniqueId? (crowdedPage classes).root = none :=
  rfl

/-- The path of the crowded paragraph is one segment with all its classes. -/
theorem pathSegments_crowdedSpot (hKeys : ∀ t ∈ classes, IsKey t) (hNodup : classes.Nodup) :
    (crowdedSpot classes).pathSegments = [⟨"p", classes, none⟩] := by
  have hTag : (crowdedSpot classes).tagSelector = "p" := by
    rw [(plain_crowdedSpot hKeys).tagSelector_eq, name_crowdedSpot]
  have hClasses : (crowdedSpot classes).stableClasses = classes :=
    stableTokens_eq_self hKeys hNodup
  have hSegment : (crowdedSpot classes).asSegment = ⟨"p", classes, none⟩ := by
    rw [Spot.asSegment, hTag, hClasses]
    rfl
  have hLineage : (crowdedSpot classes).lineage = [crowdedSpot classes] := by
    simp [Spot.lineage, ancestors_crowdedSpot, Spot.isPageFrame, name_crowdedSpot]
  have hFrame : (crowdedSpot classes).frame? = none := by
    simp [Spot.frame?, ancestors_crowdedSpot, Spot.isPageFrame, name_crowdedSpot]
  rw [Spot.pathSegments, hLineage, hFrame]
  simp [hSegment]

/-- The tag is one more test than the classes. -/
theorem not_pathFits_crowdedSpot (hKeys : ∀ t ∈ classes, IsKey t) (hNodup : classes.Nodup)
    (hMany : Selector.sizeLimit ≤ classes.length) : ¬(crowdedSpot classes).PathFits := by
  intro hFits
  have hSize := hFits.tests
  rw [pathSegments_crowdedSpot hKeys hNodup] at hSize
  simp only [Selector.chainSize, Selector.Segment.size] at hSize
  omega

/-! ## What is found -/

namespace Target

variable {t : Target}

/-- A tier that finds nothing leaves the search to those after it. -/
theorem climb_of_none (hFaults : t.lens.faults = []) {step : Tier} (h : t.tier step = none)
    (rest : List Tier) : t.climb (step :: rest) = t.climb rest := by
  simp [climb, tier?, hFaults, h, bind, Except.bind]

/-- Where no other tier finds anything, the structural path is what is found. -/
theorem find_of_path (hFaults : t.lens.faults = [])
    (hNone : ∀ step : Tier, step ≠ .structuralPath → t.tier step = none) {f : Finding}
    (hPath : t.byPath = some f) : t.find = f := by
  have hLast : t.climb [.structuralPath] = .ok (some f) := by
    simp [climb, tier?, tier, hFaults, hPath, bind, Except.bind, pure, Except.pure]
  have hLadder : t.climbLadder = .ok (some f) := by
    rw [climbLadder, hFaults, Faults.guard_nil]
    simp only [Tier.ladder, bind, Except.bind]
    -- The path is the last step, so the ladder is climbed past all the others.
    repeat rw [climb_of_none hFaults (hNone _ (by decide))]
    exact hLast
  rw [find, hLadder]

end Target

theorem role_crowdedSpot : (crowdedSpot classes).role = none := by
  have hRoles : Spot.tagRoles.lookup "p" = none := by decide
  simp [Spot.role, attr?_crowdedSpot, name_crowdedSpot, hRoles]

/-- Nothing in the paragraph gives it a label. -/
theorem label?_crowdedSpot (lens : Lens) : lens.label? (crowdedSpot classes) = .ok "" := by
  simp [Lens.label?, attrText_crowdedSpot]
  rfl

/-- Nothing in the paragraph gives it a name. -/
theorem name?_crowdedSpot {lens : Lens} (hFaults : lens.faults = []) :
    lens.name? (crowdedSpot classes) = .ok "" := by
  have hControl : (crowdedSpot classes).isButtonLike = false ∧
      (crowdedSpot classes).isTextLike = false ∧ (crowdedSpot classes).isImageLike = false := by
    simp [Spot.isButtonLike, Spot.isTextLike, Spot.isImageLike, name_crowdedSpot]
  obtain ⟨hButton, hText, hImage⟩ := hControl
  have hShown : lens.visibleText (crowdedSpot classes) = .ok "" := by
    rw [Lens.visibleText, hFaults, Faults.guard_nil, Spot.visibleText,
      if_pos isVisible_crowdedSpot]
    rfl
  simp [Lens.name?, label?_crowdedSpot, hButton, hText, hImage, hShown, attrText_crowdedSpot,
    bind, Except.bind, pure, Except.pure]

/-- No tier before the last finds anything for the paragraph. -/
theorem tier_crowdedSpot (limit depth : Int) {step : Tier} (h : step ≠ .structuralPath) :
    (Target.of (crowdedPage classes) (crowdedSpot classes) limit depth).tier step = none := by
  -- Without a role, a label and a name no tier has anything to look for.
  have hRole : (crowdedSpot classes).role = none := role_crowdedSpot
  have hLabel (lens : Lens) : lens.label (crowdedSpot classes) = "" := by
    rw [Lens.label, label?_crowdedSpot]
    rfl
  have hName : (Lens.ofPage (crowdedPage classes) limit []).name (crowdedSpot classes) = "" := by
    rw [Lens.name, name?_crowdedSpot rfl]
    rfl
  cases step with
  | structuralPath => exact absurd rfl h
  | testId => rfl
  | roleName => simp [Target.tier, Target.byRoleName, Target.roleAndName?, Target.of, hRole]
  | label => simp [Target.tier, Target.byLabel, Target.of, hLabel]
  | placeholder | altText | title =>
    simp [Target.tier, Target.byAttribute, Target.of, attrText_crowdedSpot]
  | role => simp [Target.tier, Target.byRole, Target.of, hRole]
  | text => simp [Target.tier, Target.byText, Target.shortName?, Target.of, hName]
  | textFallback => simp [Target.tier, Target.byLooseText, Target.shortName?, Target.of, hName]
  | ancestorChain =>
    simp [Target.tier, Target.byAncestor, Target.chainAncestors, Target.of, ancestors_crowdedSpot]

/-- The crowded paragraph is given its path, even where no selector can hold it. -/
theorem byPath_crowdedSpot (hKeys : ∀ t ∈ classes, IsKey t) (hNodup : classes.Nodup)
    (limit depth : Int) :
    (Target.of (crowdedPage classes) (crowdedSpot classes) limit depth).byPath =
      some (Target.finding .structuralPath
        { strategy := .path, value := (crowdedSpot classes).framePath } .warning) := by
  have hPath : (crowdedSpot classes).structuralPath (crowdedPage classes).root =
      (crowdedSpot classes).framePath := by
    rw [Spot.structuralPath, uniqueId?_crowdedSpot, Option.getD_none]
  have hSome : (crowdedSpot classes).framePath ≠ "" := by
    intro hEmpty
    have hChars := congrArg String.toList hEmpty
    rw [Spot.framePath_eq, pathSegments_crowdedSpot hKeys hNodup, String.toList_ofList,
      Selector.chainChars, Selector.Segment.chars] at hChars
    have hTag : "p".toList = [] := (List.append_eq_nil_iff.1 hChars).1
    exact absurd hTag (by decide)
  simp only [Target.byPath, Target.of, hPath, if_neg hSome]

/-- What is found for the paragraph is its path. -/
theorem find_crowdedSpot (hKeys : ∀ t ∈ classes, IsKey t) (hNodup : classes.Nodup)
    (limit depth : Int) :
    (Target.of (crowdedPage classes) (crowdedSpot classes) limit depth).find =
      Target.finding .structuralPath
        { strategy := .path, value := (crowdedSpot classes).framePath } .warning :=
  Target.find_of_path rfl (fun _ => tier_crowdedSpot limit depth)
    (byPath_crowdedSpot hKeys hNodup limit depth)

/-! ## The markup of the paragraph -/

def crowdedMarkup (classes : List String) : String :=
  String.ofList (Markup.paragraph (Text.joinWords (classes.map String.toList)))

/-- The markup of the paragraph is read as its page. -/
theorem read_crowdedMarkup (hKeys : ∀ t ∈ classes, IsKey t) :
    Page.read (crowdedMarkup classes) = .ok (crowdedPage classes) := by
  -- Neither a quote nor a reference stands in the attribute: its characters are those of keys.
  have hPlain (d : Char) (hSpace : d ≠ ' ') (hd : d.isAlphanum = false) :
      d ∉ Text.joinWords (classes.map String.toList) := by
    intro hMem
    rcases Text.mem_joinWords hMem with hSame | ⟨word, hWord, hc⟩
    · exact hSpace hSame
    · obtain ⟨token, hToken, rfl⟩ := List.mem_map.1 hWord
      exact (hKeys token hToken).ne_of_mem hc hd rfl
  have hWords : Text.words (Text.joinWords (classes.map String.toList)) =
      classes.map String.toList := by
    refine Text.words_joinWords fun word hWord => ?_
    obtain ⟨token, hToken, rfl⟩ := List.mem_map.1 hWord
    exact (hKeys token hToken).isWord
  have hClasses : Text.splitWords (String.ofList (Text.joinWords (classes.map String.toList))) =
      classes := by
    simp [Text.splitWords, hWords, Function.comp_def]
  rw [crowdedMarkup, Page.read_paragraph (hPlain '"' (by decide) (by decide))
    (hPlain '&' (by decide) (by decide)), hClasses]
  rfl

/-- A paragraph with as many classes as a selector may have tests is not found again. -/
theorem resolvedSpots_find_crowded (hKeys : ∀ t ∈ classes, IsKey t) (hNodup : classes.Nodup)
    (hMany : Selector.sizeLimit ≤ classes.length) (limit depth : Int) (d : Dialect) :
    resolvedSpots ((Target.of (crowdedPage classes) (crowdedSpot classes) limit depth
      ).find.locator.render d) (crowdedPage classes) limit = [] := by
  have hPlain := around_crowdedSpot hKeys
  refine resolvedSpots_find_of_large (Page.tidy_of_read (read_crowdedMarkup hKeys))
    mem_elements_crowdedPage hPlain limit depth d ?_ uniqueId?_crowdedSpot
    (not_pathFits_crowdedSpot hKeys hNodup hMany)
  rw [byPath_crowdedSpot hKeys hNodup, find_crowdedSpot hKeys hNodup]

end StableLocator
