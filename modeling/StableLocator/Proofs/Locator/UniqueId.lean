import StableLocator.Proofs.Locator.Sole
import StableLocator.Proofs.Selector.Ids

/-!
# Paths by id

An element with an id that no other element has is named by the selector of the id, which selects it
alone. The id may hold anything but the null character; it is written as it stands if its white space
is collapsed.

* `Text.isInline_of_collapsed` — a collapsed text fits between quotes;
* `select?_ofId_eq_singleton` — the selector of an id that one element has;
* `structuralPath_of_id` — such an id is the whole path.
-/

namespace StableLocator

/-- The only white space in a collapsed text is the space, so no line ends in it. -/
theorem Text.isInline_of_collapsed {s : String} (h : Text.collapse s = s) :
    ∀ c ∈ s.toList, Selector.IsInline c := by
  have hNot {c d : Char} (hc : c ∈ s.toList) (hBlank : Text.isBlank d = true) (hd : d ≠ ' ') :
      c ≠ d := by
    rintro rfl
    exact hd (Text.eq_space_of_mem_collapsed h hc hBlank)
  intro c hc
  exact ⟨hNot hc (by decide) (by decide), hNot hc (by decide) (by decide),
    hNot hc (by decide) (by decide)⟩

namespace Page

variable {page : Page} {s : Spot} {id : String}

/-- The selector of an id that one element has, up to white space, selects this element alone. -/
theorem select?_ofId_eq_singleton (hTidy : page.Tidy) (hs : s ∈ page.elements)
    (hId : s.attr? "id" = some id) (hCollapsed : Text.collapse id = id)
    (hNull : ∀ c ∈ id.toList, c.toNat ≠ 0)
    (hAlone : ∀ t ∈ page.elements, t.attrText "id" = id → t = s) :
    page.root.select? (Selector.ofId id) = some [s] := by
  have hTidyRoot : ∀ t ∈ page.root.descendants, t.attrs.Tidy := hTidy
  rw [Selector.select?_ofId hTidyRoot hNull (Text.isInline_of_collapsed hCollapsed), Option.some.injEq]
  have hSelf : s ∈ page.root.descendants.filter fun t =>
      t.attr? "id" = some id ∨ Selector.isPlainName id = false ∧ t.attr? "id" = some (id ++ "\n") :=
    List.mem_filter.mpr ⟨hs, decide_eq_true (.inl hId)⟩
  refine (Page.eq_singleton_iff List.filter_sublist hSelf).mpr fun t ht => ?_
  obtain ⟨hElement, hMatches⟩ := List.mem_filter.mp ht
  -- Collapsed, what is selected has the same id.
  refine hAlone t hElement ?_
  rcases of_decide_eq_true hMatches with hSame | ⟨_, hLine⟩
  · rw [Spot.attrText, hSame, Option.getD_some, hCollapsed]
  · rw [Spot.attrText, hLine, Option.getD_some, Text.collapse_append_lineFeed,
      hCollapsed]

end Page

/-- On a tidy page, as any page that was read is one, an element whose id is not empty, has its white space
collapsed and no null character in it, and is the id of no other element, not even with other white space,
has the selector of the id as its structural path, and this selector selects the element alone. -/
theorem structuralPath_of_id {page : Page} (hTidy : page.Tidy) {s : Spot}
    (hs : s ∈ page.elements) {id : String} (hId : s.attr? "id" = some id) (hSome : id ≠ "")
    (hCollapsed : Text.collapse id = id) (hNull : ∀ c ∈ id.toList, c.toNat ≠ 0)
    (hAlone : ∀ t ∈ page.elements, t.attrText "id" = id → t = s) :
    s.structuralPath page.root = Selector.ofId id ∧
      page.root.select? (Selector.ofId id) = some [s] := by
  have hSelect := Page.select?_ofId_eq_singleton hTidy hs hId hCollapsed hNull hAlone
  have hText : s.attrText "id" = id := by
    rw [Spot.attrText, hId, Option.getD_some, hCollapsed]
  have hUnique : s.uniqueId? page.root = some (Selector.ofId id) := by
    have hSelf : s.same s = true := beq_self_eq_true s.place
    rw [Spot.uniqueId?, hText, if_neg (by simp [hSome, hId]), hSelect]
    exact if_pos hSelf
  refine ⟨?_, hSelect⟩
  rw [Spot.structuralPath, hUnique, Option.getD_some]

/-- Two elements of which one has an id with quotes, brackets, a backslash and a digit in front. -/
def quotedIds : String := "<i id='1st \"item\" \\ ]'></i><i id='other'></i>"

/-- The id of the first is its path. -/
theorem structuralPath_of_id_quotedIds :
    ∃ page, Page.read quotedIds = .ok page ∧ ∃ s ∈ page.elements,
      s.structuralPath page.root = "[id=\"1st \\\"item\\\" \\\\ ]\"]" ∧
      page.root.select? (s.structuralPath page.root) = some [s] := by
  have hFound : (match Page.read quotedIds with
      | .ok page => decide (∃ s ∈ page.elements, s.attr? "id" = some "1st \"item\" \\ ]" ∧
          ∀ t ∈ page.elements, t.attrText "id" = "1st \"item\" \\ ]" → t.same s = true)
      | .error _ => false) = true := by decide +kernel
  split at hFound
  · rename_i page hPage
    obtain ⟨s, hs, hId, hAlone⟩ := of_decide_eq_true hFound
    have hAlone : ∀ t ∈ page.elements, t.attrText "id" = "1st \"item\" \\ ]" → t = s :=
      fun t ht hText => (Spot.same_iff ht hs).mp (hAlone t ht hText)
    obtain ⟨hPath, hSelect⟩ := structuralPath_of_id (Page.tidy_of_read hPage) hs hId (by decide)
      (by decide) (by simp) hAlone
    refine ⟨page, hPage, s, hs, ?_, ?_⟩
    · rw [hPath]
      decide
    · rw [hPath]
      exact hSelect
  · cases hFound

end StableLocator
