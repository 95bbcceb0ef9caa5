import Mathlib.Data.List.Induction
import Mathlib.Data.List.Sort
import StableLocator.Locator.Match
import StableLocator.Proofs.Page.Order

/-!
# Chains of queries

A chain is followed by lists: each query searches below every element that the one before it found,
and of an element that is found more than once the first occurrence stays. This file relates the
lists to single ways through the page:

* `Trail lens page scope queries spots` — each of the queries finds the spot beside it, the first
  one in the scope and each further one inside the spot before;
* `mem_chainMatches_iff` — the matches of a chain are the ends of its trails;
* `follow_sorted` — queries that are not selectors keep document order, although their scopes may lie
  inside one another.
-/

namespace StableLocator

/-! ## What one query finds -/

namespace Selector.Inquiry

/-- The spots that are selected from a row stand there in this order. -/
theorem select_sublist {property : Spot → Inquiry Bool} {spots found : List Spot}
    {notes after : Notes} (h : (select property spots).run notes = some (found, after)) :
    found.Sublist spots := by
  induction spots generalizing found notes after with
  | nil =>
    simp only [select, StateT.run_pure] at h
    injection h with h
    injection h with hFound
    exact hFound ▸ List.Sublist.slnil
  | cons s rest ih =>
    simp only [select, StateT.run_bind, Option.bind_eq_bind, Option.bind_eq_some_iff,
      StateT.run_pure] at h
    obtain ⟨⟨holds, notes'⟩, _, ⟨more, notes''⟩, hMore, hFound⟩ := h
    have hRest := ih hMore
    -- The notes taken on the way do not matter, only whether the spot was kept.
    injection hFound with hFound
    injection hFound with hFound
    cases holds with
    | true => exact hFound ▸ hRest.cons_cons s
    | false => exact hFound ▸ hRest.cons s

end Selector.Inquiry

/-- What a selector selects is below the spot, in document order. -/
theorem Spot.select?_sublist {s : Spot} {selector : String} {found : List Spot}
    (h : s.select? selector = some found) : found.Sublist s.descendants := by
  rw [Spot.select?, Option.bind_eq_bind, Option.bind_eq_some_iff] at h
  obtain ⟨f, _, hFound⟩ := h
  rw [Spot.matching?] at hFound
  split at hFound
  · injection hFound with hFound
    exact hFound ▸ List.filter_sublist
  · rw [StateT.run', Option.map_eq_map, Option.map_eq_some_iff] at hFound
    obtain ⟨⟨spots, after⟩, hRun, rfl⟩ := hFound
    exact Selector.Inquiry.select_sublist hRun

namespace Query

def scopedTo (q : Query) (scope : Scope) : Query := { q with scope }

variable {q : Query} {lens : Lens} {page : Page} {s t : Spot}

/-- A selector selects in document order, each element once. -/
theorem selected_sublist (selector : String) (root : Spot) :
    (selected selector root).Sublist root.descendants := by
  unfold selected
  cases h : root.select? selector with
  | none => exact List.nil_sublist _
  | some found => exact List.filter_sublist.trans (Spot.select?_sublist h)

/-- What a query finds is below the spot where it searches, in document order. -/
theorem matchesIn_sublist (q : Query) (lens : Lens) (root : Spot) :
    (q.matchesIn lens root).Sublist root.descendants := by
  unfold matchesIn
  split
  · exact selected_sublist q.value root
  · exact List.filter_sublist

theorem mem_descendants_of_mem_matchesIn (h : t ∈ q.matchesIn lens s) : t ∈ s.descendants :=
  (matchesIn_sublist q lens s).subset h

/-- Only visible elements match. -/
theorem isVisible_of_mem_matchesIn (h : t ∈ q.matchesIn lens s) : t.isVisible = true := by
  unfold matchesIn selected at h
  split at h
  · exact (List.mem_filter.1 h).2
  · have hFinds := (List.mem_filter.1 h).2
    simp only [finds, Bool.and_eq_true] at hFinds
    exact hFinds.1

/-- Inside an element of the page a query finds what it finds below the element. -/
theorem found_scopedTo_within (q : Query) (lens : Lens) (hs : s ∈ page.elements) :
    (q.scopedTo (.within s.place)).found lens page = q.matchesIn lens s := by
  simp only [found, scopedTo, Page.find?_place hs, Option.map_some, Option.getD_some]
  rfl

end Query

/-! ## First occurrences -/

theorem distinct_concat (spots : List Spot) (s : Spot) :
    distinct (spots ++ [s]) =
      if (distinct spots).any s.same then distinct spots else distinct spots ++ [s] := by
  simp [distinct]

theorem distinct_subset (spots : List Spot) : distinct spots ⊆ spots := by
  induction spots using List.reverseRecOn with
  | nil => exact fun _ h => h
  | append_singleton spots s ih =>
    rw [distinct_concat]
    split
    · exact fun t h => List.mem_append_left _ (ih h)
    · intro t h
      rcases List.mem_append.1 h with h | h
      · exact List.mem_append_left _ (ih h)
      · exact List.mem_append_right _ h

/-- Of elements of one tree, the first occurrences are all there are. -/
theorem mem_distinct_iff {r t : Spot} {spots : List Spot} (h : spots ⊆ r.descendants) :
    t ∈ distinct spots ↔ t ∈ spots := by
  refine ⟨fun ht => distinct_subset spots ht, ?_⟩
  -- From the end of the row, as `distinct` adds one spot after the other there.
  induction spots using List.reverseRecOn with
  | nil => exact fun ht => ht
  | append_singleton spots s ih =>
    have hSpots : spots ⊆ r.descendants := fun u hu => h (List.mem_append_left _ hu)
    intro ht
    rw [distinct_concat]
    rw [List.mem_append, List.mem_singleton] at ht
    split
    · rename_i hKnown
      rcases ht with ht | rfl
      · exact ih hSpots ht
      · -- The last spot was left out for one with its place, which in one tree is the spot itself.
        obtain ⟨u, hu, hSame⟩ := List.any_eq_true.1 hKnown
        have hTree : u ∈ r.descendants := hSpots (distinct_subset spots hu)
        rw [Spot.same_iff (h (by simp)) hTree] at hSame
        exact hSame ▸ hu
    · rcases ht with ht | rfl
      · exact List.mem_append_left _ (ih hSpots ht)
      · simp

/-- No place occurs twice among first occurrences. -/
theorem nodup_places_distinct (spots : List Spot) : ((distinct spots).map Spot.place).Nodup := by
  induction spots using List.reverseRecOn with
  | nil => exact List.nodup_nil
  | append_singleton spots s ih =>
    rw [distinct_concat]
    split
    · exact ih
    · rename_i hNew
      rw [List.map_append, List.nodup_append]
      refine ⟨ih, by simp, ?_⟩
      intro p hp p' hp' hEqual
      obtain ⟨u, hu, rfl⟩ := List.mem_map.1 hp
      simp only [List.map_cons, List.map_nil, List.mem_singleton] at hp'
      exact hNew (List.any_eq_true.2 ⟨u, hu, by simp [Spot.same, hEqual, hp']⟩)

/-- Spots in document order are added unless they are there already. -/
theorem distinct_append (xs : List Spot) {ys : List Spot} (h : ys.Pairwise Spot.Before) :
    distinct (xs ++ ys) = distinct xs ++ ys.filter fun s => !(distinct xs).any s.same := by
  induction ys using List.reverseRecOn with
  | nil => simp
  | append_singleton ys s ih =>
    rw [List.pairwise_append] at h
    obtain ⟨hSorted, _, hLast⟩ := h
    -- Among spots in document order no two have one place.
    have hFresh : (ys.filter fun t => !(distinct xs).any t.same).any s.same = false := by
      rw [List.any_eq_false]
      intro t ht hSame
      have hBefore : t.Before s := hLast t (List.mem_of_mem_filter ht) s (by simp)
      rw [Spot.same, beq_iff_eq] at hSame
      rw [Spot.Before, hSame] at hBefore
      exact Place.Before.irrefl _ hBefore
    rw [← List.append_assoc, distinct_concat, ih hSorted, List.any_append, hFresh,
      List.filter_append]
    cases hKnown : (distinct xs).any s.same <;> simp [hKnown]

/-! ## Trails -/

/-- Each of the queries finds the spot beside it: the first one in the scope, each further one inside
the spot before. -/
inductive Trail (lens : Lens) (page : Page) : Scope → List Query → List Spot → Prop
  | nil (scope : Scope) : Trail lens page scope [] []
  | cons {scope : Scope} {q : Query} {queries : List Query} {s : Spot} {spots : List Spot} :
      s ∈ (q.scopedTo scope).found lens page → Trail lens page (.within s.place) queries spots →
      Trail lens page scope (q :: queries) (s :: spots)

section Follow

variable {lens : Lens} {page : Page}

/-- Matches below elements of a page are elements of the page. -/
theorem flatMap_matchesIn_subset {spots : List Spot} (q : Query) (h : spots ⊆ page.elements) :
    spots.flatMap (q.matchesIn lens) ⊆ page.elements := by
  intro t ht
  obtain ⟨s, hs, ht⟩ := List.mem_flatMap.1 ht
  exact Page.mem_elements_of_mem_descendants (h hs) (Query.mem_descendants_of_mem_matchesIn ht)

theorem distinct_matchesIn_subset {spots : List Spot} (q : Query) (h : spots ⊆ page.elements) :
    distinct (spots.flatMap (q.matchesIn lens)) ⊆ page.elements :=
  fun _ ht => flatMap_matchesIn_subset q h (distinct_subset _ ht)

/-- What a chain finds below elements of a page are the ends of the trails that begin there. -/
theorem mem_follow_iff {spots : List Spot} {queries : List Query} {m : Spot}
    (h : spots ⊆ page.elements) :
    m ∈ follow lens spots queries ↔
      ∃ s ∈ spots, ∃ trail, Trail lens page (.within s.place) queries trail ∧
        (s :: trail).getLast? = some m := by
  -- By the queries, for all rows of spots: the spots that the first query finds are the next row.
  induction queries generalizing spots with
  | nil =>
    rw [follow]
    constructor
    · intro hm
      exact ⟨m, hm, [], .nil _, rfl⟩
    · rintro ⟨s, hs, trail, hTrail, hLast⟩
      cases hTrail
      simp only [List.getLast?_singleton, Option.some.injEq] at hLast
      exact hLast ▸ hs
  | cons q queries ih =>
    rw [follow, ih (distinct_matchesIn_subset q h)]
    constructor
    · -- The trail from a spot in the next row gets the scope in which the spot was found.
      rintro ⟨t, ht, trail, hTrail, hLast⟩
      rw [mem_distinct_iff (flatMap_matchesIn_subset q h), List.mem_flatMap] at ht
      obtain ⟨s, hs, ht⟩ := ht
      rw [← Query.found_scopedTo_within q lens (h hs)] at ht
      exact ⟨s, hs, t :: trail, .cons ht hTrail, hLast⟩
    · -- The first step of a trail ends in the next row, where what is left of it begins.
      rintro ⟨s, hs, trail, hTrail, hLast⟩
      cases hTrail with
      | cons ht hTrail =>
        rw [Query.found_scopedTo_within q lens (h hs)] at ht
        refine ⟨_, ?_, _, hTrail, hLast⟩
        rw [mem_distinct_iff (flatMap_matchesIn_subset q h), List.mem_flatMap]
        exact ⟨s, hs, ht⟩

/-- Following a chain yields no element twice. -/
theorem nodup_places_follow {spots : List Spot} (queries : List Query)
    (h : (spots.map Spot.place).Nodup) :
    ((follow lens spots queries).map Spot.place).Nodup := by
  induction queries generalizing spots with
  | nil => exact h
  | cons q queries ih => exact ih (nodup_places_distinct _)

/-- Following a chain stays on the page. -/
theorem follow_subset_elements {spots : List Spot} (queries : List Query)
    (h : spots ⊆ page.elements) : follow lens spots queries ⊆ page.elements := by
  induction queries generalizing spots with
  | nil => exact h
  | cons q queries ih => exact ih (distinct_matchesIn_subset q h)

theorem isVisible_of_mem_distinct {spots : List Spot} {q : Query} {m : Spot}
    (h : m ∈ distinct (spots.flatMap (q.matchesIn lens))) : m.isVisible = true := by
  obtain ⟨s, _, hm⟩ := List.mem_flatMap.1 (distinct_subset _ h)
  exact Query.isVisible_of_mem_matchesIn hm

/-- Following a chain from visible spots yields visible elements. -/
theorem isVisible_of_mem_follow {spots : List Spot} {queries : List Query} {m : Spot}
    (h : ∀ s ∈ spots, s.isVisible = true) (hm : m ∈ follow lens spots queries) :
    m.isVisible = true := by
  induction queries generalizing spots with
  | nil => exact h m hm
  | cons q queries ih => exact ih (fun s hs => isVisible_of_mem_distinct hs) hm

/-! ## Document order -/

/-- Searches below spots in document order find spots in document order, wherever the spots lie
inside one another: what lies inside an earlier one has been found there. -/
theorem sorted_distinct_flatMap {r : Spot} (finds : Spot → Bool) {spots : List Spot}
    (hTree : spots ⊆ r.descendants) (hSorted : spots.Pairwise Spot.Before) :
    (distinct (spots.flatMap fun s => s.descendants.filter finds)).Pairwise Spot.Before := by
  induction spots using List.reverseRecOn with
  | nil => exact .nil
  | append_singleton spots s ih =>
    rw [List.pairwise_append] at hSorted
    obtain ⟨hSpots, _, hLast⟩ := hSorted
    have hEarlier : spots ⊆ r.descendants := fun t ht => hTree (List.mem_append_left _ ht)
    have hs : s ∈ r.descendants := hTree (by simp)
    have hFound : (spots.flatMap fun s => s.descendants.filter finds) ⊆ r.descendants := by
      intro t ht
      obtain ⟨u, hu, ht⟩ := List.mem_flatMap.1 ht
      exact Spot.mem_descendants_trans (hEarlier hu) (List.mem_of_mem_filter ht)
    have hBelow : (s.descendants.filter finds).Pairwise Spot.Before :=
      s.sorted_descendants.sublist List.filter_sublist
    rw [List.flatMap_append, List.flatMap_singleton, distinct_append _ hBelow,
      List.pairwise_append]
    refine ⟨ih hEarlier hSpots, hBelow.sublist List.filter_sublist, ?_⟩
    -- What is left: a spot `t` found below an earlier scope `v` is before a new one, `u`, below `s`.
    intro t ht u hu
    rw [mem_distinct_iff hFound, List.mem_flatMap] at ht
    obtain ⟨v, hv, ht⟩ := ht
    obtain ⟨ht, _⟩ := List.mem_filter.1 ht
    obtain ⟨hu, hNew⟩ := List.mem_filter.1 hu
    obtain ⟨hu, hFinds⟩ := List.mem_filter.1 hu
    -- The new spot is not below the earlier scope, so the scope around it is not either.
    have hOut : s ∉ v.descendants := by
      intro hInside
      have huv : u ∈ v.descendants := Spot.mem_descendants_trans hInside hu
      have hKnown : u ∈ distinct (spots.flatMap fun s => s.descendants.filter finds) :=
        (mem_distinct_iff hFound).2
          (List.mem_flatMap.2 ⟨v, hv, List.mem_filter.2 ⟨huv, hFinds⟩⟩)
      have hAny : (distinct (spots.flatMap fun s => s.descendants.filter finds)).any u.same :=
        List.any_eq_true.2 ⟨u, hKnown, by simp [Spot.same]⟩
      simp [hAny] at hNew
    have hBefore : v.Before s := hLast v hv s (by simp)
    exact (Spot.before_of_mem_descendants (hEarlier hv) ht hs hBefore hOut).trans
      (Spot.before_of_mem hu)

/-- A query that is no path filters the elements below. -/
theorem matchesIn_eq_filter {q : Query} (h : q.strategy ≠ .path) :
    q.matchesIn lens = fun s => s.descendants.filter (q.finds lens) := by
  funext s
  rw [Query.matchesIn, if_neg h]

/-- A chain without selectors goes on from document order to document order. -/
theorem follow_sorted {spots : List Spot} {queries : List Query}
    (hTree : spots ⊆ page.elements) (hSorted : spots.Pairwise Spot.Before)
    (h : ∀ q ∈ queries, q.strategy ≠ .path) :
    (follow lens spots queries).Pairwise Spot.Before := by
  induction queries generalizing spots with
  | nil => exact hSorted
  | cons q queries ih =>
    refine ih (distinct_matchesIn_subset q hTree) ?_ fun q' hq' => h q' (List.mem_cons_of_mem _ hq')
    rw [matchesIn_eq_filter (h q List.mem_cons_self)]
    exact sorted_distinct_flatMap (q.finds lens) hTree hSorted

/-! ## Whole chains -/

/-- In document order no spot comes twice. -/
theorem distinct_of_sorted {spots : List Spot} (h : spots.Pairwise Spot.Before) :
    distinct spots = spots := by
  simpa [distinct] using distinct_append [] h

/-- A chain begins with what its first query finds in the page. -/
theorem chainMatches_cons (q : Query) (queries : List Query) (lens : Lens) (page : Page) :
    chainMatches (q :: queries) lens page =
      follow lens (q.matchesIn lens page.root) queries := by
  have hSorted : (q.matchesIn lens page.root).Pairwise Spot.Before :=
    (Spot.sorted_descendants _).sublist (Query.matchesIn_sublist q lens page.root)
  simp [chainMatches, follow, distinct_of_sorted hSorted]

theorem matchesIn_root_subset (q : Query) (lens : Lens) (page : Page) :
    q.matchesIn lens page.root ⊆ page.elements :=
  (Query.matchesIn_sublist q lens page.root).subset

/-- A chain finds elements of the page. -/
theorem chainMatches_subset (queries : List Query) (lens : Lens) (page : Page) :
    chainMatches queries lens page ⊆ page.elements := by
  cases queries with
  | nil => exact fun _ h => absurd h (by simp [chainMatches])
  | cons q queries =>
    rw [chainMatches_cons]
    exact follow_subset_elements queries (matchesIn_root_subset q lens page)

/-- The matches of a chain are the ends of its trails. -/
theorem mem_chainMatches_iff {queries : List Query} {m : Spot} (h : queries ≠ []) :
    m ∈ chainMatches queries lens page ↔
      ∃ trail, Trail lens page .page queries trail ∧ trail.getLast? = some m := by
  cases queries with
  | nil => exact absurd rfl h
  | cons q queries =>
    rw [chainMatches_cons, mem_follow_iff (matchesIn_root_subset q lens page)]
    constructor
    · rintro ⟨s, hs, trail, hTrail, hLast⟩
      exact ⟨s :: trail, .cons hs hTrail, hLast⟩
    · rintro ⟨trail, hTrail, hLast⟩
      cases hTrail with
      | cons hs hTrail => exact ⟨_, hs, _, hTrail, hLast⟩

theorem nodup_places_chainMatches (queries : List Query) (lens : Lens) (page : Page) :
    ((chainMatches queries lens page).map Spot.place).Nodup := by
  cases queries with
  | nil => exact List.nodup_nil
  | cons q queries =>
    -- The first row has no duplicates, as it is made of first occurrences.
    exact nodup_places_follow queries (nodup_places_distinct _)

theorem isVisible_of_mem_chainMatches {queries : List Query} {m : Spot}
    (hm : m ∈ chainMatches queries lens page) : m.isVisible = true := by
  cases queries with
  | nil => simp [chainMatches] at hm
  | cons q queries =>
    rw [chainMatches_cons] at hm
    exact isVisible_of_mem_follow (fun s hs => Query.isVisible_of_mem_matchesIn hs) hm

/-- Below an element of the page, each spot of a trail is inside the one before. -/
theorem Trail.isChain_within {s : Spot} {queries : List Query} {spots : List Spot}
    (hs : s ∈ page.elements) (h : Trail lens page (.within s.place) queries spots) :
    (s :: spots).IsChain fun u v => v ∈ u.descendants := by
  induction queries generalizing s spots with
  | nil =>
    cases h
    exact .singleton s
  | cons q queries ih =>
    cases h with
    | cons ht h =>
      rw [Query.found_scopedTo_within q lens hs] at ht
      have hInside := Query.mem_descendants_of_mem_matchesIn ht
      exact .cons_cons hInside (ih (Page.mem_elements_of_mem_descendants hs hInside) h)

/-- Each spot of a trail is below the one before it. -/
theorem Trail.isChain {queries : List Query} {spots : List Spot}
    (h : Trail lens page .page queries spots) :
    spots.IsChain fun u v => v ∈ u.descendants := by
  cases h with
  | nil => exact .nil
  | cons hs h => exact Trail.isChain_within (matchesIn_root_subset _ lens page hs) h

/-- A chain without paths finds its elements in document order. -/
theorem chainMatches_sublist {queries : List Query} (h : ∀ q ∈ queries, q.strategy ≠ .path) :
    (chainMatches queries lens page).Sublist page.elements := by
  have hSorted : (chainMatches queries lens page).Pairwise Spot.Before := by
    cases queries with
    | nil => exact .nil
    | cons q queries =>
      rw [chainMatches_cons]
      exact follow_sorted (matchesIn_root_subset q lens page)
        ((Spot.sorted_descendants _).sublist (Query.matchesIn_sublist q lens page.root))
        fun q' hq' => h q' (List.mem_cons_of_mem _ hq')
  -- Two rows in one strict order, of which one has only spots of the other.
  exact List.sublist_of_subperm_of_pairwise
    (List.subperm_of_subset (hSorted.nodup) (chainMatches_subset queries lens page))
    hSorted (Spot.sorted_descendants _)

end Follow

/-- A chain of queries finds the elements to which a trail leads, each of them once and all of them
visible. Each spot of a trail is inside the one before it. Without selectors the elements come in
document order. -/
theorem chainMatches_spec (queries : List Query) (lens : Lens) (page : Page) (h : queries ≠ []) :
    (∀ m, m ∈ chainMatches queries lens page ↔
      ∃ trail, Trail lens page .page queries trail ∧ trail.getLast? = some m) ∧
    ((chainMatches queries lens page).map Spot.place).Nodup ∧
    (∀ m ∈ chainMatches queries lens page, m.isVisible = true) ∧
    (∀ trail, Trail lens page .page queries trail →
      trail.IsChain fun s t => t ∈ s.descendants) ∧
    ((∀ q ∈ queries, q.strategy ≠ .path) →
      (chainMatches queries lens page).Sublist page.elements) :=
  ⟨fun _ => mem_chainMatches_iff h, nodup_places_chainMatches queries lens page,
    fun _ hm => isVisible_of_mem_chainMatches hm, fun _ hTrail => hTrail.isChain,
    chainMatches_sublist⟩

/-- A list with an item and an inner list that has an item, too. -/
def nestedLists : Page where
  nodes := [.element "ul" [] [.element "li" [] [], .element "ul" [] [.element "li" [] []]]]

/-- Lists and then the items in them. -/
def itemsOfLists : List Query :=
  [{ strategy := .role, value := "list" }, { strategy := .role, value := "listitem" }]

/-- The inner item is reached through both lists and counts once. -/
theorem chainMatches_spec_nestedLists :
    itemsOfLists ≠ [] ∧ (∀ q ∈ itemsOfLists, q.strategy ≠ .path) ∧
    (chainMatches itemsOfLists (Lens.ofPage nestedLists 120 []) nestedLists).map Spot.place =
      [[0, 0], [0, 1, 0]] ∧
    (chainMatches itemsOfLists (Lens.ofPage nestedLists 120 []) nestedLists).Sublist
      nestedLists.elements :=
  ⟨by decide, by decide, by decide +kernel,
    (chainMatches_spec itemsOfLists (Lens.ofPage nestedLists 120 []) nestedLists
      (by decide)).2.2.2.2 (by decide)⟩

end StableLocator
