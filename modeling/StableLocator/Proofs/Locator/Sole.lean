import StableLocator.Proofs.Locator.Denotation

/-!
# Paths that select one element

In a page with one `html` and one `body` inside it, the path of an element below the body selects this
element alone just where it is the only one to resemble it at each level. That is so in particular
where at each level the segment has a position, or no sibling has the tag and the stable classes.

* `Page.Framed` — pages with one `html` and one `body`;
* `Page.Framed.split_iff` — the levels of an element are its lineage;
* `Page.Framed.eq_of_resembles` — segments that tell siblings apart tell all elements apart;
* `select?_structuralPath_iff` — paths that select their element alone;
* `select?_structuralPath_besideNote` — a path that selects a sibling with one class more, too.
-/

namespace StableLocator

/-- There is one `html` element and one `body` element, and a spot is a `body` that is a child of
`html`. -/
structure Page.HasFrame (page : Page) (body : Spot) : Prop where
  oneHtml : page.elements.countP (fun a => a.name == "html") = 1
  oneBody : page.elements.countP (fun a => a.name == "body") = 1
  name : body.name = "body"
  parent : body.parentElement?.any (fun html => html.name == "html") = true

instance (page : Page) (body : Spot) : Decidable (page.HasFrame body) :=
  decidable_of_iff (page.elements.countP (fun a => a.name == "html") = 1 ∧
      page.elements.countP (fun a => a.name == "body") = 1 ∧ body.name = "body" ∧
      body.parentElement?.any (fun html => html.name == "html") = true)
    ⟨fun h => ⟨h.1, h.2.1, h.2.2.1, h.2.2.2⟩, fun h => ⟨h.oneHtml, h.oneBody, h.name, h.parent⟩⟩

/-- The page has one `html` element and one `body` element, which is a child of the former. -/
structure Page.Framed (page : Page) (body : Spot) : Prop extends Page.HasFrame page body where
  mem : body ∈ page.elements

/-- Where one element passes, two that pass are the same. -/
theorem eq_of_countP_eq_one {α : Type} {p : α → Bool} {l : List α} (h : l.countP p = 1) {a b : α}
    (ha : a ∈ l) (hb : b ∈ l) (hpa : p a = true) (hpb : p b = true) : a = b := by
  rw [List.countP_eq_length_filter, List.length_eq_one_iff] at h
  obtain ⟨only, hOnly⟩ := h
  have hMem {c : α} (hc : c ∈ l) (hpc : p c = true) : c = only :=
    List.mem_singleton.mp (hOnly ▸ List.mem_filter.mpr ⟨hc, hpc⟩)
  rw [hMem ha hpa, hMem hb hpb]

theorem forall₂_concat {α β : Type} {R : α → β → Prop} {as : List α} {bs : List β} {a : α} {b : β} :
    List.Forall₂ R (as ++ [a]) (bs ++ [b]) ↔ List.Forall₂ R as bs ∧ R a b := by
  rw [← List.forall₂_reverse_iff, List.reverse_append, List.reverse_append]
  simp [and_comm]

namespace Spot

variable {s c p : Spot}

/-! ## Siblings -/

/-- Among the children with its tag, an element stands at its position. -/
theorem getElem?_typePosition (h : c ∈ p.children) :
    (p.children.filter fun t => t.name == c.name)[c.typePosition - 1]? = some c := by
  rw [children_of_parent? (parent?_eq_some_iff.mpr h), List.filter_append, List.filter_reverse,
    List.filter_cons_of_pos (by simp), List.getElem?_append_right (by simp [typePosition])]
  simp [typePosition]

/-- The segment of the element has a position, or no other child of the parent has its tag and its
stable classes. -/
def IsTold (s : Spot) : Prop :=
  s.SharesSignature ∨ ∀ p, s.parentElement? = some p → ∀ t ∈ p.children,
    t.name = s.name → (∀ token ∈ s.stableClasses, token ∈ t.classTokens) → t = s

instance (s : Spot) : Decidable s.SharesSignature :=
  decidable_of_iff (s.parentElement?.any fun p =>
      decide (2 ≤ p.children.countP fun t => t.signature = s.signature))
    (by simp [SharesSignature, Option.any_eq_true])

/-- Children of one parent are the same where they have the same place. -/
theorem same_iff_of_mem_children {t : Spot} (ht : t ∈ p.children) (hs : s ∈ p.children) :
    t.same s = true ↔ t = s :=
  same_iff (mem_descendants_iff.mpr (.child ht)) (mem_descendants_iff.mpr (.child hs))

instance (s : Spot) : Decidable s.IsTold :=
  decidable_of_iff (s.SharesSignature ∨ ∀ p ∈ s.parentElement?, ∀ t ∈ p.children, t.name = s.name →
      (∀ token ∈ s.stableClasses, token ∈ t.classTokens) → t.same s = true)
    (or_congr_right (forall₂_congr fun _ hp => forall₂_congr fun _ ht =>
      imp_congr_right fun _ => imp_congr_right fun _ => same_iff_of_mem_children ht
        (parent?_eq_some_iff.mp (parent?_of_parentElement? hp))))

/-- A child that resembles a told sibling is that sibling. -/
theorem IsTold.eq_of_resembles {m : Spot} (h : s.IsTold) (hp : p.isDocument = false)
    (hs : s ∈ p.children) (hm : m ∈ p.children) (hResembles : m.Resembles s) : m = s := by
  rcases h with hShared | hNone
  · have hAt := getElem?_typePosition hm
    rw [hResembles.name, hResembles.position hShared, getElem?_typePosition hs] at hAt
    exact (Option.some.inj hAt).symm
  · exact hNone p (parentElement?_of_mem_children hp hs) m hm hResembles.name hResembles.classes

end Spot

/-! ## Below the body -/

namespace Page.Framed

variable {page : Page} {body s m : Spot}

/-- Nothing below the body is a page frame. -/
theorem isPageFrame_eq_false (h : page.Framed body) (hs : s ∈ body.descendants) :
    s.isPageFrame = false := by
  have hElement : s ∈ page.elements := mem_elements_of_mem_descendants h.mem hs
  obtain ⟨html, hParent, hHtml⟩ := (Option.any_eq_true ..).mp h.parent
  have hBelow : body ∈ html.descendants := Spot.mem_descendants_iff.mpr
    (.child (Spot.parent?_eq_some_iff.mp (Spot.parent?_of_parentElement? hParent)))
  rw [Spot.isPageFrame, Bool.or_eq_false_iff, beq_eq_false_iff_ne, beq_eq_false_iff_ne]
  constructor
  · intro hName
    have hSame : s = body :=
      eq_of_countP_eq_one h.oneBody hElement h.mem (beq_iff_eq.mpr hName) (beq_iff_eq.mpr h.name)
    exact Spot.place_ne_of_mem hs (congrArg Spot.place hSame)
  · intro hName
    have hMem : html ∈ page.elements := mem_elements_of_mem_ancestors h.mem
      (Spot.ancestors_of_parentElement? hParent ▸ List.mem_cons_self)
    have hSame : s = html :=
      eq_of_countP_eq_one h.oneHtml hElement hMem (beq_iff_eq.mpr hName) hHtml
    -- The body would be below itself.
    exact Spot.place_ne_of_mem (Spot.mem_descendants_trans hs (hSame ▸ hBelow)) rfl

theorem isPageFrame_body (h : page.Framed body) : body.isPageFrame = true := by
  simp [Spot.isPageFrame, h.name]

theorem below_of_child (hs : s ∈ body.children) : s ∈ body.descendants :=
  Spot.mem_descendants_iff.mpr (.child hs)

theorem below_of_deeper {t : Spot} (ht : t ∈ body.descendants) (hs : s ∈ t.children) :
    s ∈ body.descendants :=
  Spot.mem_descendants_trans ht (below_of_child hs)

/-- An element below the body is a child of it, with a lineage of its own, or a child of an element
below it, of which it goes on the lineage. -/
@[elab_as_elim]
theorem induct (h : page.Framed body) {motive : Spot → Prop}
    (child : ∀ s ∈ body.children, s.parentElement? = some body → s.lineage = [s] → motive s)
    (deeper : ∀ t ∈ body.descendants, ∀ s ∈ t.children, s.parentElement? = some t →
      s.lineage = t.lineage ++ [s] → motive t → motive s)
    {s : Spot} (hs : s ∈ body.descendants) : motive s := by
  have hLineage {c p : Spot} (hp : p.isDocument = false) (hc : c ∈ p.children)
      (hBelow : c ∈ body.descendants) :
      c.parentElement? = some p ∧ c.lineage = p.lineage ++ [c] := by
    have hParent := Spot.parentElement?_of_mem_children hp hc
    exact ⟨hParent, Spot.lineage_of_parentElement? (h.isPageFrame_eq_false hBelow) hParent⟩
  rw [Spot.mem_descendants_iff] at hs
  induction hs with
  | child hc =>
    obtain ⟨hParent, hOwn⟩ :=
      hLineage (Spot.isDocument_eq_false_of_mem h.mem) hc (below_of_child hc)
    rw [Spot.lineage_of_isPageFrame h.isPageFrame_body] at hOwn
    exact child _ hc hParent hOwn
  | deeper ht hc ih =>
    have hMem := Spot.mem_descendants_iff.mpr ht
    obtain ⟨hParent, hOwn⟩ :=
      hLineage (Spot.isDocument_eq_false_of_mem hMem) hc (below_of_deeper hMem hc)
    exact deeper _ hMem _ hc hParent hOwn ih

/-- The way up from an element below the body is its lineage, then the body. -/
theorem enclosing_eq (h : page.Framed body) (hs : s ∈ body.descendants) :
    s :: s.enclosing = s.lineage.reverse ++ body :: body.enclosing := by
  refine h.induct ?_ ?_ hs
  · intro s _ hp hLineage
    rw [hLineage, Spot.enclosing_of_parent? (Spot.parent?_of_parentElement? hp)]
    rfl
  · intro t _ s _ hp hLineage ih
    rw [hLineage, Spot.enclosing_of_parent? (Spot.parent?_of_parentElement? hp), ih,
      List.reverse_append]
    rfl

theorem mem_lineage (h : page.Framed body) (hs : s ∈ body.descendants) :
    ∀ a ∈ s.lineage, a ∈ body.descendants := by
  refine h.induct ?_ ?_ hs
  · intro s hs _ hLineage a ha
    rw [hLineage] at ha
    rw [List.mem_singleton.mp ha]
    exact below_of_child hs
  · intro t ht s hs _ hLineage ih a ha
    rw [hLineage] at ha
    rcases List.mem_append.mp ha with ha | ha
    · exact ih a ha
    · rw [List.mem_singleton.mp ha]
      exact below_of_deeper ht hs

/-- The frame of a page is the page frame of all below it. -/
theorem frame?_eq (h : page.Framed body) (hs : s ∈ body.descendants) : s.frame? = some body := by
  have hBody : body.frame? = some body := by simp [Spot.frame?, h.isPageFrame_body]
  refine h.induct ?_ ?_ hs
  · intro s hs hp _
    rw [Spot.frame?_of_parentElement? (h.isPageFrame_eq_false (below_of_child hs)) hp, hBody]
  · intro t ht s hs hp _ ih
    rw [Spot.frame?_of_parentElement? (h.isPageFrame_eq_false (below_of_deeper ht hs)) hp, ih]

theorem lineage_ne_nil (h : page.Framed body) (hs : s ∈ body.descendants) : s.lineage ≠ [] :=
  List.ne_nil_of_mem (Spot.mem_lineage_self (h.isPageFrame_eq_false hs))

/-- A `body` around an element of the page is the body. -/
theorem eq_body_of_mem_enclosing (h : page.Framed body) (hm : m ∈ page.elements) {y : Spot}
    (hy : y ∈ m.enclosing) (hName : y.name = "body") : y = body := by
  have hElement : y ∈ page.elements := by
    rcases Spot.mem_enclosing_of_below (Spot.mem_descendants_iff.mp hm) hy with rfl | hy | hy
    · have hRoot : page.root.name ≠ "body" := by
        have hTag : Text.lower "[document]" ≠ "body" := by decide
        exact hTag
      exact absurd hName hRoot
    · exact Spot.mem_descendants_iff.mpr hy
    · rw [root_enclosing] at hy
      cases hy
  exact eq_of_countP_eq_one h.oneBody hElement h.mem (beq_iff_eq.mpr hName) (beq_iff_eq.mpr h.name)

/-- What stands before the body on the way up, without a page frame in it, is the lineage. -/
theorem eq_lineage_of_split (h : page.Framed body) (hm : m ∈ body.descendants)
    {inner more : List Spot} (hSplit : m :: m.enclosing = inner ++ body :: more)
    (hInner : ∀ a ∈ inner, a.isPageFrame = false) : inner = m.lineage.reverse := by
  have hTake {l more : List Spot} (hl : ∀ a ∈ l, a.isPageFrame = false) :
      (l ++ body :: more).takeWhile (fun a => !a.isPageFrame) = l := by
    rw [List.takeWhile_append_of_pos (by simpa using hl),
      List.takeWhile_cons_of_neg (by simp [h.isPageFrame_body]), List.append_nil]
  have hOwn : ∀ a ∈ m.lineage.reverse, a.isPageFrame = false := fun a ha =>
    h.isPageFrame_eq_false (h.mem_lineage hm a (List.mem_reverse.mp ha))
  calc inner = (inner ++ body :: more).takeWhile (fun a => !a.isPageFrame) := (hTake hInner).symm
    _ = (m.lineage.reverse ++ body :: body.enclosing).takeWhile (fun a => !a.isPageFrame) := by
      rw [← hSplit, h.enclosing_eq hm]
    _ = m.lineage.reverse := hTake hOwn

theorem isPageFrame_of_forall₂ {steps inner : List Spot}
    (h : List.Forall₂ (fun n m => m.Resembles n) steps inner)
    (hSteps : ∀ n ∈ steps, n.isPageFrame = false) : ∀ m ∈ inner, m.isPageFrame = false := by
  induction h with
  | nil => exact fun _ hm => absurd hm List.not_mem_nil
  | cons hResembles _ ih =>
    obtain ⟨hn, hSteps⟩ := List.forall_mem_cons.mp hSteps
    refine List.forall_mem_cons.mpr ⟨?_, ih hSteps⟩
    rw [Spot.isPageFrame, hResembles.name]
    exact hn

/-- The levels of an element, up to a body around it, are its lineage. -/
theorem split_iff (h : page.Framed body) (hs : s ∈ body.descendants) (hm : m ∈ page.elements) :
    (∃ inner rest, m :: m.enclosing = inner ++ rest ∧
      List.Forall₂ (fun n m => m.Resembles n) s.lineage.reverse inner ∧
      ∃ y, rest.head? = some y ∧ y.name = "body") ↔
    m ∈ body.descendants ∧ List.Forall₂ Spot.Resembles m.lineage s.lineage := by
  have hFlip (l : List Spot) :
      List.Forall₂ (fun n m => m.Resembles n) s.lineage.reverse l.reverse ↔
        List.Forall₂ Spot.Resembles l s.lineage := by
    rw [List.forall₂_reverse_iff]
    exact ⟨fun h => h.flip, fun h => h.flip⟩
  have hSteps : ∀ n ∈ s.lineage.reverse, n.isPageFrame = false := fun n hn =>
    h.isPageFrame_eq_false (h.mem_lineage hs n (List.mem_reverse.mp hn))
  constructor
  · rintro ⟨inner, rest, hSplit, hInner, y, hHead, hName⟩
    obtain ⟨rest, rfl⟩ : ∃ more, rest = y :: more := by
      cases rest with
      | nil => cases hHead
      | cons first more => exact ⟨more, by rw [Option.some.inj hHead]⟩
    -- There is at least one level, so the body is around the element.
    have hAround : y ∈ m.enclosing := by
      cases inner with
      | nil =>
        have hNone := List.forall₂_nil_right_iff.mp hInner
        exact absurd (List.reverse_eq_nil_iff.mp hNone) (h.lineage_ne_nil hs)
      | cons first inner =>
        rw [(List.cons.inj hSplit).2]
        simp
    obtain rfl := h.eq_body_of_mem_enclosing hm hAround hName
    have hBelow : m ∈ y.descendants := Spot.mem_enclosing_iff_mem_descendants.mp hAround
    have hLevels : inner = m.lineage.reverse :=
      h.eq_lineage_of_split hBelow hSplit (isPageFrame_of_forall₂ hInner hSteps)
    rw [hLevels] at hInner
    exact ⟨hBelow, (hFlip _).mp hInner⟩
  · rintro ⟨hBelow, hResembles⟩
    exact ⟨m.lineage.reverse, body :: body.enclosing, h.enclosing_eq hBelow,
      (hFlip _).mpr hResembles, body, rfl, h.name⟩

/-- Segments that tell siblings apart at each level tell the element from all others. -/
theorem eq_of_resembles (h : page.Framed body) (hs : s ∈ body.descendants) :
    (∀ a ∈ s.lineage, a.IsTold) → ∀ m ∈ body.descendants,
      List.Forall₂ Spot.Resembles m.lineage s.lineage → m = s := by
  -- Level by level from the body on: elements with the same parent are told apart, and elements at
  -- different levels have lineages of different lengths.
  refine h.induct ?_ ?_ hs
  · intro s hs _ hLineage hTold m hm
    rw [hLineage] at hTold ⊢
    have hSelf : s.IsTold := hTold s List.mem_cons_self
    refine h.induct ?_ ?_ hm
    · intro m hm _ hLineage hResembles
      rw [hLineage] at hResembles
      exact hSelf.eq_of_resembles (Spot.isDocument_eq_false_of_mem h.mem) hs hm
        (List.forall₂_cons.mp hResembles).1
    · intro u hu m _ _ hLineage _ hResembles
      rw [hLineage] at hResembles
      rw [← List.nil_append [s], forall₂_concat] at hResembles
      exact absurd (List.forall₂_nil_right_iff.mp hResembles.1) (h.lineage_ne_nil hu)
  · intro t ht s hs _ hLineage ih hTold m hm
    rw [hLineage] at hTold ⊢
    obtain ⟨hOuter, hSelf⟩ := List.forall_mem_append.mp hTold
    refine h.induct ?_ ?_ hm
    · intro m _ _ hLineage hResembles
      rw [hLineage] at hResembles
      rw [← List.nil_append [m], forall₂_concat] at hResembles
      exact absurd (List.forall₂_nil_left_iff.mp hResembles.1) (h.lineage_ne_nil ht)
    · intro u hu m hm _ hLineage _ hResembles
      rw [hLineage] at hResembles
      obtain ⟨hAround, hLast⟩ := forall₂_concat.mp hResembles
      obtain rfl := ih hOuter u hu hAround
      exact (hSelf s List.mem_cons_self).eq_of_resembles (Spot.isDocument_eq_false_of_mem ht) hs hm
        hLast

/-! ## Selecting one element -/

/-- The path of an element below the body selects the elements below the body that resemble it at each
level. -/
theorem select?_framePath (h : page.Framed body) (hTidy : page.Tidy) (hs : s ∈ body.descendants)
    (hPlain : ∀ a ∈ s.lineage, a.Plain) :
    (¬s.PathFits → page.root.select? s.framePath = none) ∧
    (s.PathFits →
      ∃ found, page.root.select? s.framePath = some found ∧ found.Sublist page.elements ∧
        ∀ m, m ∈ found ↔
          m ∈ body.descendants ∧ List.Forall₂ Spot.Resembles m.lineage s.lineage) := by
  obtain ⟨hLarge, hSmall⟩ := Spot.mem_select?_framePath_iff hTidy
    (mem_elements_of_mem_descendants h.mem hs) (h.isPageFrame_eq_false hs) hPlain
  refine ⟨hLarge, fun hFits => ?_⟩
  obtain ⟨found, hFound, hSub, hMem⟩ := hSmall hFits
  refine ⟨found, hFound, hSub, fun m => ?_⟩
  have hFrame : s.frame?.any (fun f => f.name == "body") = true := by
    rw [h.frame?_eq hs]
    exact beq_iff_eq.mpr h.name
  rw [hMem]
  simp only [hFrame, true_implies]
  constructor
  · rintro ⟨hm, hSplit⟩
    exact (h.split_iff hs hm).mp hSplit
  · intro hResembles
    have hm : m ∈ page.elements := mem_elements_of_mem_descendants h.mem hResembles.1
    exact ⟨hm, (h.split_iff hs hm).mpr hResembles⟩

end Page.Framed

/-- Of elements in document order, one is the only one. -/
theorem Page.eq_singleton_iff {page : Page} {found : List Spot} (hSub : found.Sublist page.elements)
    {s : Spot} (hs : s ∈ found) : found = [s] ↔ ∀ m ∈ found, m = s := by
  constructor
  · rintro rfl m hm
    exact List.mem_singleton.mp hm
  · intro hAll
    have hNodup : found.Nodup := (page.root.nodup_places_descendants.sublist (hSub.map _)).of_map _
    cases found with
    | nil => cases hs
    | cons first rest =>
      obtain ⟨hFirst, hRest⟩ := List.forall_mem_cons.mp hAll
      subst hFirst
      cases rest with
      | nil => rfl
      | cons second rest =>
        have hSecond : second = first := hRest second List.mem_cons_self
        simp [hSecond] at hNodup

/-- On a tidy page, as any page that was read is one, the structural path of an element below the body
selects this element alone just where it is the selector of a unique id, or where a selector can hold it
and no other element below the body resembles the element at each level. It does if a selector can hold it
and the segments tell siblings apart. -/
theorem select?_structuralPath_iff {page : Page} (hTidy : page.Tidy) {body s : Spot}
    (hFramed : page.Framed body) (hs : s ∈ body.descendants)
    (hPlain : s.uniqueId? page.root = none → ∀ a ∈ s.lineage, a.Plain) :
    (page.root.select? (s.structuralPath page.root) = some [s] ↔
      (s.uniqueId? page.root).isSome ∨ s.PathFits ∧ ∀ m ∈ body.descendants,
        List.Forall₂ Spot.Resembles m.lineage s.lineage → m = s) ∧
    (s.PathFits → (∀ a ∈ s.lineage, a.IsTold) →
      page.root.select? (s.structuralPath page.root) = some [s]) := by
  have hElement : s ∈ page.elements := Page.mem_elements_of_mem_descendants hFramed.mem hs
  rw [Spot.structuralPath]
  cases hId : s.uniqueId? page.root with
  | some selector =>
    rw [Option.getD_some]
    simp [Spot.select?_uniqueId hElement hId]
  | none =>
    rw [Option.getD_none]
    obtain ⟨hLarge, hSmall⟩ := hFramed.select?_framePath hTidy hs (hPlain hId)
    have hIff : page.root.select? s.framePath = some [s] ↔
        s.PathFits ∧ ∀ m ∈ body.descendants,
          List.Forall₂ Spot.Resembles m.lineage s.lineage → m = s := by
      by_cases hFits : s.PathFits
      · obtain ⟨found, hFound, hSub, hMem⟩ := hSmall hFits
        -- The element itself is found, so it is the question whether another one is.
        have hSelf : s ∈ found := by
          refine (hMem s).mpr ⟨hs, List.forall₂_same.mpr fun a ha => ?_⟩
          exact Spot.Resembles.refl (hTidy a (Page.mem_elements_of_mem_descendants hFramed.mem
            (hFramed.mem_lineage hs a ha)))
        rw [hFound, Option.some.injEq, Page.eq_singleton_iff hSub hSelf]
        simp only [hFits, true_and, hMem, and_imp]
      · simp [hLarge hFits, hFits]
    refine ⟨by simpa using hIff, fun hFits hTold => hIff.mpr ⟨hFits, ?_⟩⟩
    exact hFramed.eq_of_resembles hs hTold

def threeParagraphs : String :=
  "<html><body><main><p>one</p><p>two</p><p>three</p></main></body></html>"

/-- The path of the third paragraph selects it alone. -/
theorem select?_structuralPath_threeParagraphs :
    ∃ page, Page.read threeParagraphs = .ok page ∧ ∃ body s, page.Framed body ∧
      s ∈ body.descendants ∧ s.framePath = "body > main > p:nth-of-type(3)" ∧
      page.root.select? (s.structuralPath page.root) = some [s] := by
  have hFound : (match Page.read threeParagraphs with
      | .ok page => decide (∃ body ∈ page.elements, ∃ s ∈ body.descendants, page.HasFrame body ∧
          s.framePath = "body > main > p:nth-of-type(3)" ∧ (∀ a ∈ s.lineage, a.Plain) ∧
          s.PathFits ∧ ∀ a ∈ s.lineage, a.IsTold)
      | .error _ => false) = true := by decide +kernel
  split at hFound
  · rename_i page hPage
    obtain ⟨body, hBody, s, hs, hFramed, hPath, hPlain, hFits, hTold⟩ := of_decide_eq_true hFound
    exact ⟨page, hPage, body, s, ⟨hFramed, hBody⟩, hs, hPath,
      (select?_structuralPath_iff (Page.tidy_of_read hPage) ⟨hFramed, hBody⟩ hs fun _ => hPlain).2
        hFits hTold⟩
  · cases hFound

/-- A paragraph beside another one that has a class, too. -/
def besideNote : String := "<html><body><p></p><p class=\"note\"></p></body></html>"

/-- The path of the first paragraph has no position, and selects both of them. -/
theorem select?_structuralPath_besideNote :
    ∃ page, Page.read besideNote = .ok page ∧ ∃ body s, page.Framed body ∧
      s ∈ body.descendants ∧ (∀ a ∈ s.lineage, a.Plain) ∧ s.PathFits ∧
      s.structuralPath page.root = "body > p" ∧
      page.root.select? (s.structuralPath page.root) ≠ some [s] := by
  have hFound : (match Page.read besideNote with
      | .ok page => decide (∃ body ∈ page.elements, ∃ s ∈ body.descendants, page.HasFrame body ∧
          (∀ a ∈ s.lineage, a.Plain) ∧ s.PathFits ∧ s.structuralPath page.root = "body > p" ∧
          (page.root.select? (s.structuralPath page.root)).map List.length = some 2)
      | .error _ => false) = true := by decide +kernel
  split at hFound
  · rename_i page hPage
    obtain ⟨body, hBody, s, hs, hFramed, hPlain, hFits, hPath, hBoth⟩ := of_decide_eq_true hFound
    refine ⟨page, hPage, body, s, ⟨hFramed, hBody⟩, hs, hPlain, hFits, hPath, fun hAlone => ?_⟩
    rw [hAlone] at hBoth
    cases hBoth
  · cases hFound

end StableLocator
