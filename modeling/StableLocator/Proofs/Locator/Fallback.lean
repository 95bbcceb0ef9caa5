import StableLocator.Proofs.Locator.Crowd

/-!
# Findings with a warning

A finding that warns is not known to find its element alone, but the element is among what it finds:
it has the test id, its name occurs in itself, and its structural path holds at it.

* `Finding.Reaches` — a finding that says all it asks and finds the target among others;
* `tier_reaches` and `byTag_reaches` — every tier reaches the target, and so does its tag;
* `mem_resolvedSpots_find` — the text of a finding resolves to the element, possibly among others.
-/

namespace StableLocator

/-- The finding says all it asks and finds the target, possibly among others. -/
def Finding.Reaches (f : Finding) (t : Target) : Prop :=
  (∀ q ∈ f.locator.queries, q.SaysAll) ∧
    t.spot ∈ chainMatches f.locator.queries t.lens t.page

theorem Finding.Hits.reaches {f : Finding} {t : Target} (h : f.Hits t) : f.Reaches t := by
  obtain ⟨hSays, hFinds⟩ := h
  refine ⟨hSays, ?_⟩
  rw [hFinds]
  exact List.mem_cons_self

/-- The first present value is one of those that were given, with white space collapsed. -/
theorem firstPresent_eq_some {values : List (String × Option String)} {name text : String}
    (h : firstPresent values = some (name, text)) :
    ∃ value, (name, value) ∈ values ∧ text = Text.collapse (value.getD "") := by
  induction values with
  | nil => cases h
  | cons first rest ih =>
    obtain ⟨n, v⟩ := first
    simp only [firstPresent] at h
    split at h
    · obtain ⟨value, hMem, hText⟩ := ih h
      exact ⟨value, List.mem_cons_of_mem _ hMem, hText⟩
    · simp only [Option.some.injEq, Prod.mk.injEq] at h
      obtain ⟨rfl, rfl⟩ := h
      exact ⟨v, List.mem_cons_self, rfl⟩

/-- An element has its own test id. -/
theorem Spot.testId?_eq_some {s : Spot} {value : String} (h : s.testId? = some value) :
    ∃ name ∈ testIdNames, s.attrText name = value := by
  rw [testId?, Option.map_eq_some_iff] at h
  obtain ⟨⟨name, text⟩, hFirst, rfl⟩ := h
  obtain ⟨value, hMem, rfl⟩ := firstPresent_eq_some hFirst
  obtain ⟨name', hName, hPair⟩ := List.mem_map.1 hMem
  injection hPair with hName' hValue
  exact ⟨name', hName, by rw [attrText, hValue]⟩

/-- A text occurs in itself. -/
theorem Text.occurs_self (s : String) : Text.occurs s s = true :=
  Text.occursIn_iff.2 ⟨[], [], by simp⟩

namespace Target

variable {t : Target} {f : Finding}

/-- A finding reaches the target if its query says all it asks and matches the target. -/
theorem finding_reaches {q : Query} (tier : Tier) (severity : Severity) (hSays : q.SaysAll)
    (h : t.spot ∈ q.matchesIn t.lens t.page.root) : (finding tier q severity).Reaches t := by
  refine ⟨fun q' hq' => ?_, ?_⟩
  · rw [List.mem_singleton.1 hq']
    exact hSays
  · rw [finding, Locator.queries, chainMatches_cons]
    exact h

/-- A visible element that a query accepts is found by it. -/
theorem mem_matchesIn {q : Query} (hPath : q.strategy ≠ .path) (hSpot : t.spot ∈ t.page.elements)
    (hVisible : t.spot.isVisible = true) (hAccepts : q.accepts t.lens t.spot = .ok true) :
    t.spot ∈ q.matchesIn t.lens t.page.root := by
  rw [Query.matchesIn, if_neg hPath, List.mem_filter, Query.finds, hVisible, hAccepts]
  exact ⟨hSpot, rfl⟩

/-- A visible element that a selector selects is found by it. -/
theorem mem_matchesIn_path {q : Query} (hPath : q.strategy = .path)
    (hVisible : t.spot.isVisible = true)
    (h : ∃ found, t.page.root.select? q.value = some found ∧ t.spot ∈ found) :
    t.spot ∈ q.matchesIn t.lens t.page.root := by
  obtain ⟨found, hSelect, hMem⟩ := h
  rw [Query.matchesIn, if_pos hPath, Query.selected, hSelect, List.mem_filter]
  exact ⟨hMem, hVisible⟩

/-- A test id reaches its element, even where others share it. -/
theorem byTestId_reaches (hSpot : t.spot ∈ t.page.elements) (hVisible : t.spot.isVisible = true)
    (h : t.byTestId = some f) : f.Reaches t := by
  rw [byTestId, Option.map_eq_some_iff] at h
  obtain ⟨value, hValue, rfl⟩ := h
  obtain ⟨name, hName, hText⟩ := Spot.testId?_eq_some hValue
  refine finding_reaches .testId _ (saysAll_of_ne (by simp))
    (mem_matchesIn (by simp) hSpot hVisible ?_)
  have hAccepts : testIdNames.any (fun n => t.spot.attrText n == value) = true :=
    List.any_eq_true.2 ⟨name, hName, beq_iff_eq.2 hText⟩
  exact congrArg Except.ok hAccepts

/-- A loose text reaches the element whose name it is, if no fault strikes. -/
theorem byLooseText_reaches (hSpot : t.spot ∈ t.page.elements)
    (hVisible : t.spot.isVisible = true) (hFaults : t.lens.faults = [])
    (h : t.byLooseText = some f) : f.Reaches t := by
  rw [byLooseText, Option.map_eq_some_iff] at h
  obtain ⟨name, hName, rfl⟩ := h
  -- The text that is looked for is the name of the target itself.
  have hOwn : t.lens.name t.spot = name := by
    simp only [shortName?] at hName
    split at hName
    · exact Option.some.inj hName
    · cases hName
  refine finding_reaches .textFallback .warning (saysAll_of_ne (by simp))
    (mem_matchesIn (by simp) hSpot hVisible ?_)
  show Query.compares _ t.lens name (t.lens.name t.spot) = .ok true
  rw [Query.compares, hFaults, Faults.guard_nil, hOwn]
  exact congrArg Except.ok (Text.occurs_self name)

/-- A path reaches its element wherever it selects it. -/
theorem byPath_reaches (hVisible : t.spot.isVisible = true)
    (hSelects : ∃ found, t.page.root.select? (t.spot.structuralPath t.page.root) = some found ∧
      t.spot ∈ found) (h : t.byPath = some f) : f.Reaches t := by
  simp only [byPath] at h
  split at h
  · cases h
  · rw [Option.some.injEq] at h
    subst h
    exact finding_reaches .structuralPath .warning (saysAll_of_ne (by simp))
      (mem_matchesIn_path rfl hVisible hSelects)

/-- The tag alone reaches a plain element. -/
theorem byTag_reaches (hSpot : t.spot ∈ t.page.elements) (hVisible : t.spot.isVisible = true)
    (hPlain : t.spot.Plain) : t.byTag.Reaches t := by
  have hFound : t.spot ∈ Query.matchesIn { strategy := .path, value := t.spot.tagSelector }
      t.lens t.page.root :=
    mem_matchesIn_path rfl hVisible (Spot.mem_select?_tagSelector hSpot hPlain.tag)
  refine ⟨fun q hq => ?_, ?_⟩
  · rw [List.mem_singleton.1 hq]
    exact saysAll_of_ne (by simp [byTag])
  · rw [byTag, Locator.queries, chainMatches_cons]
    exact hFound

/-- Every tier reaches the target; that of the structural path does if the path selects it. -/
theorem tier_reaches {step : Tier} (hSpot : t.spot ∈ t.page.elements)
    (hVisible : t.spot.isVisible = true) (hFaults : t.lens.faults = [])
    (hSelects : step = .structuralPath →
      ∃ found, t.page.root.select? (t.spot.structuralPath t.page.root) = some found ∧
        t.spot ∈ found)
    (h : t.tier step = some f) : f.Reaches t := by
  -- Tiers that never warn hit the target, so three of them are left.
  cases hWarn : mayWarn step with
  | false => exact (tier_hits hSpot h fun hTrue => by simp [hWarn] at hTrue).reaches
  | true =>
    cases step with
    | testId => exact byTestId_reaches hSpot hVisible h
    | textFallback => exact byLooseText_reaches hSpot hVisible hFaults h
    | structuralPath => exact byPath_reaches hVisible (hSelects rfl) h
    | _ => cases hWarn

/-- The structural path is the finding of its own tier alone. -/
theorem origin_of_byPath (h : t.byPath = some f) : f.origin = .tier .structuralPath := by
  simp only [byPath] at h
  split at h
  · cases h
  · rw [Option.some.injEq] at h
    rw [← h, finding]

/-- What is found for a visible element of a page reaches it, if a selector can hold the path where
the path is what is found. -/
theorem find_reaches (hSpot : t.spot ∈ t.page.elements) (hVisible : t.spot.isVisible = true)
    (hFaults : t.lens.faults = []) (hTidy : t.page.Tidy)
    (hPlain : ∀ a ∈ t.spot :: t.spot.ancestors, a.Plain)
    (hFits : t.find.origin = .tier .structuralPath → t.spot.uniqueId? t.page.root = none →
      t.spot.PathFits) : t.find.Reaches t := by
  rcases t.find_eq with ⟨step, hStep⟩ | hTag
  · refine tier_reaches hSpot hVisible hFaults (fun hPath => ?_) hStep
    subst hPath
    exact Spot.mem_select?_structuralPath hSpot (hTidy.around hSpot hPlain)
      (hFits (origin_of_byPath hStep))
  · rw [hTag]
    exact byTag_reaches hSpot hVisible (hPlain _ List.mem_cons_self)

end Target

/-- On a tidy page, as any page that was read is one, a locator finds its element again, whatever the
trust in it: its text resolves to elements of which the wanted one is one. The element is visible and
without odd tags and classes around it, and a path that serves as its locator is one that a selector can
hold. -/
theorem mem_resolvedSpots_find {page : Page} (hTidy : page.Tidy) {spot : Spot}
    (hSpot : spot ∈ page.elements) (hVisible : spot.isVisible = true)
    (hPlain : ∀ a ∈ spot :: spot.ancestors, a.Plain) (limit depth : Int) (d : Dialect)
    (hFits : (Target.of page spot limit depth).find.origin = .tier .structuralPath →
      spot.uniqueId? page.root = none → spot.PathFits) :
    spot ∈ resolvedSpots ((Target.of page spot limit depth).find.locator.render d) page limit := by
  have hReaches : (Target.of page spot limit depth).find.Reaches (Target.of page spot limit depth) :=
    Target.find_reaches hSpot hVisible rfl hTidy hPlain hFits
  obtain ⟨hSays, hFound⟩ := hReaches
  rw [resolvedSpots_render hSays]
  exact hFound

def twinNotes : String := "<body><p class=note></p><p class=note></p></body>"

/-- The second note is found by its path. -/
theorem mem_resolvedSpots_find_twinNotes :
    ∃ page, Page.read twinNotes = .ok page ∧ ∃ spot ∈ page.elements, spot.place = [0, 1] ∧
      spot.framePath = "body > p.note:nth-of-type(2)" ∧
      (Target.of page spot 120 4).find.origin = .tier .structuralPath ∧
      ∀ d : Dialect, spot ∈
        resolvedSpots ((Target.of page spot 120 4).find.locator.render d) page 120 := by
  have hFound : (match Page.read twinNotes with
      | .ok page => decide (∃ spot ∈ page.elements, spot.place = [0, 1] ∧
          spot.framePath = "body > p.note:nth-of-type(2)" ∧
          (Target.of page spot 120 4).find.origin = .tier .structuralPath ∧
          spot.isVisible = true ∧ (∀ a ∈ spot :: spot.ancestors, a.Plain) ∧ spot.PathFits)
      | .error _ => false) = true := by decide +kernel
  -- One evaluation reads the markup and decides all that the theorem asks of the note.
  split at hFound
  · rename_i page hPage
    obtain ⟨spot, hSpot, hPlace, hPath, hOrigin, hVisible, hPlain, hFits⟩ := of_decide_eq_true hFound
    exact ⟨page, hPage, spot, hSpot, hPlace, hPath, hOrigin, fun d =>
      mem_resolvedSpots_find (Page.tidy_of_read hPage) hSpot hVisible hPlain 120 4 d fun _ _ => hFits⟩
  · cases hFound

/-- As many different classes as a selector may have tests. -/
def manyKeys : List String := (List.range Selector.sizeLimit).map fun i => "key" ++ Nat.repr i

theorem isKey_of_mem_manyKeys {token : String} (h : token ∈ manyKeys) : IsKey token := by
  obtain ⟨i, _, rfl⟩ := List.mem_map.1 h
  have hChars : ("key" ++ Nat.repr i).toList = 'k' :: 'e' :: 'y' :: Nat.toDigits 10 i := by
    rw [String.toList_append, Nat.toList_repr]
    rfl
  refine ⟨?_, fun c hc => ?_⟩
  · rw [← String.length_toList, hChars]
    simp
  · have hLetters : ['k', 'e', 'y'].all Char.isAlphanum = true := by decide
    rw [hChars] at hc
    rcases List.mem_append.1 (show c ∈ ['k', 'e', 'y'] ++ Nat.toDigits 10 i from hc) with hc | hc
    · exact List.all_eq_true.1 hLetters c hc
    · rw [Char.isAlphanum, Number.isDigit_of_mem_toDigits hc, Bool.or_true]

theorem nodup_manyKeys : manyKeys.Nodup := by
  refine List.nodup_range.map fun i j hSame => ?_
  have hRepr : Nat.repr i = Nat.repr j := (String.append_right_inj _).1 hSame
  have hRead (k : Nat) : Nat.ofDigitChars 10 (Nat.repr k).toList 0 = k := by
    rw [Nat.toList_repr]
    exact Nat.ofDigitChars_ten_toDigits
  calc
    i = Nat.ofDigitChars 10 (Nat.repr i).toList 0 := (hRead i).symm
    _ = Nat.ofDigitChars 10 (Nat.repr j).toList 0 := by rw [hRepr]
    _ = j := hRead j

/-- The path of a paragraph with that many classes has one test too many: the paragraph is visible,
its tag and its classes are plain, and what is found for it does not find it. -/
theorem not_mem_resolvedSpots_find_manyKeys :
    ∃ page, Page.read (crowdedMarkup manyKeys) = .ok page ∧ ∃ spot ∈ page.elements,
      spot.isVisible = true ∧ (∀ a ∈ spot :: spot.ancestors, a.Plain) ∧
      ∀ d : Dialect, spot ∉
        resolvedSpots ((Target.of page spot 120 4).find.locator.render d) page 120 := by
  have hKeys : ∀ t ∈ manyKeys, IsKey t := fun _ => isKey_of_mem_manyKeys
  -- The tag is one more test than the classes.
  have hMany : Selector.sizeLimit ≤ manyKeys.length := by simp [manyKeys]
  refine ⟨crowdedPage manyKeys, read_crowdedMarkup hKeys, crowdedSpot manyKeys,
    mem_elements_crowdedPage, isVisible_crowdedSpot, around_crowdedSpot hKeys, fun d => ?_⟩
  rw [resolvedSpots_find_crowded hKeys nodup_manyKeys hMany 120 4 d]
  exact List.not_mem_nil

end StableLocator
