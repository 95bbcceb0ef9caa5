import StableLocator.Proofs.Locator.Chain
import StableLocator.Proofs.Session.Frame
import StableLocator.Proofs.Session.Marks

/-!
# Marks over a course of actions

Whatever is done at a desk, the marks on its pages are those that the session lists, and apart from
them the pages are what they were.

* `resolve_spots` — what a text resolves to is on the page, and nothing of it twice;
* `Desk.Kept` — a desk whose pages differ from those of another by its marks only;
* `Desk.verify_spec` — what a verification finds, and the marks that it leaves;
* `Desk.verify_of_kept` — a verification sees the pages without any marks;
* `Desk.kept_run` — no course of actions does more to the pages than mark them;
* `Desk.marks_run` — the marks on the pages are the listed ones.
-/

namespace StableLocator

/-! ## What texts resolve to -/

/-- A selector finds elements of the page in document order. -/
theorem resolveSelector_sublist (text : String) (page : Page) :
    (resolveSelector text page).Sublist page.elements := by
  unfold resolveSelector
  split
  · exact List.nil_sublist _
  · cases hSelect : page.root.select? text with
    | none => exact List.nil_sublist _
    | some spots => exact Spot.select?_sublist hSelect

/-- What a text resolves to is on the page, and no element of it counts twice. -/
theorem resolve_spots (text : String) (page : Page) (limit : Int) (faults : Faults) :
    (resolve text page limit faults).spots ⊆ page.elements ∧
      ((resolve text page limit faults).spots.map Spot.place).Nodup := by
  have hSelector := resolveSelector_sublist (Text.trim text) page
  have hElements : (page.elements.map Spot.place).Nodup := page.root.nodup_places_descendants
  unfold resolve
  dsimp only
  split
  · exact ⟨List.nil_subset _, List.nodup_nil⟩
  · cases hFound : resolveSelector (Text.trim text) page with
    | nil =>
      -- No selector, so that a chain of queries is followed, if the text is one.
      dsimp only
      unfold resolveLocator
      split
      · exact ⟨List.nil_subset _, List.nodup_nil⟩
      · exact ⟨chainMatches_subset _ _ _, nodup_places_chainMatches _ _ _⟩
    | cons s spots =>
      rw [hFound] at hSelector
      exact ⟨hSelector.subset, hElements.sublist (hSelector.map Spot.place)⟩

/-- What a guarded resolution answers is the resolution itself. -/
theorem resolve_of_resolve? {text : String} {page : Page} {limit : Int} {faults : Faults} {r : Resolution}
    (h : resolve? text page limit faults = .ok r) : resolve text page limit faults = r := by
  unfold resolve? Faults.guard at h
  split at h
  · cases h
  · injection h

namespace Desk

/-! ## Verifications -/

/-- A desk that does its work on the pages of another: they differ by the marks that it lists. -/
structure Kept (d e : Desk) : Prop where
  settings : e.session.settings = d.session.settings
  faults : e.faults = d.faults
  nodup : e.session.marked.Nodup
  located : ∀ m ∈ e.session.marked, ∃ s ∈ (Pages.page d.pages m.page).elements, s.place = m.place
  pages : e.pages = Pages.marked d.session.settings.marker e.session.marked d.pages

variable {d e f : Desk}

/-- A desk without any marks keeps its own pages. -/
theorem Kept.refl (h : d.session.marked = []) : Kept d d where
  settings := rfl
  faults := rfl
  nodup := by simp [h]
  located := by simp [h]
  pages := by rw [h, Pages.marked_nil]

/-- A desk with the same marks keeps what the other one kept. -/
theorem Kept.of_sameMarks (h : Kept d e) (hSame : SameMarks e f) : Kept d f where
  settings := hSame.settings.trans h.settings
  faults := hSame.faults.trans h.faults
  nodup := hSame.marked ▸ h.nodup
  located := hSame.marked ▸ h.located
  pages := by rw [hSame.pages, h.pages, hSame.marked]

def marksOf (number : Nat) (r : Resolution) : List Mark :=
  r.spots.map fun s => ⟨number, s.place⟩

/-- The desk with the marks for what a text resolves to, and with no others. -/
def remark (d e : Desk) (marks : List Mark) : Desk :=
  { e with
    session := { e.session with marked := marks }
    pages := Pages.marked d.session.settings.marker marks d.pages }

/-- A verification resolves the text on the page without any marks, and leaves only those for what it
found, on any page. -/
theorem verify_of_kept (h : Kept d e) (hLack : Pages.Lack d.session.settings.marker d.pages)
    (text : String) (number : Nat) (faults : Faults) :
    e.verify text number faults =
      match resolve? text (Pages.page d.pages number) d.session.settings.textLimit
        (faults ++ d.faults) with
      | .error message => (⟨.failed message, []⟩, d.remark e [])
      | .ok r => (r, d.remark e (marksOf number r)) := by
  have hClear : (Pages.clear d.session.settings.marker e.session.marked number e.pages).2 =
      d.pages := by
    rw [h.pages]
    exact Pages.clear_marked hLack _ _
  rw [verify]
  simp only [h.settings, h.faults, hClear]
  cases resolve? text (Pages.page d.pages number) d.session.settings.textLimit
    (faults ++ d.faults) with
  | error message => simp only [remark, Pages.marked_nil, h.settings, h.faults]
  | ok r =>
    simp only [remark, marksOf, Pages.mark_eq_marked, List.map_map, Function.comp_def, h.settings,
      h.faults]

/-- A verification finds elements of the page without its old marks, and leaves marks for them on it. -/
theorem verify_spec (d : Desk) (text : String) (number : Nat) (faults : Faults) :
    let name := d.session.settings.marker
    let cleared := Pages.page (Pages.clear name d.session.marked number d.pages).2 number
    let r := (d.verify text number faults).1
    let e := (d.verify text number faults).2
    r.spots ⊆ cleared.elements ∧ e.session = { d.session with marked := marksOf number r } ∧
      Pages.page e.pages number = cleared.markAt name (r.spots.map Spot.place) := by
  unfold verify
  dsimp only
  split
  · exact ⟨List.nil_subset _, rfl, (Page.markAt_nil _ _).symm⟩
  · rename_i r hResolve
    have hSpots := resolve_spots text
      (Pages.page (Pages.clear d.session.settings.marker d.session.marked number d.pages).2 number)
      d.session.settings.textLimit (faults ++ d.faults)
    rw [resolve_of_resolve? hResolve] at hSpots
    refine ⟨hSpots.1, ?_, Pages.page_mark _ _ _ _⟩
    dsimp only
    rw [marksOf, List.map_map]
    rfl

/-- A desk that is marked anew keeps all but its marks. -/
theorem kept_remark (h : Kept d e) {marks : List Mark} (hNodup : marks.Nodup)
    (hLocated : ∀ m ∈ marks, ∃ s ∈ (Pages.page d.pages m.page).elements, s.place = m.place) :
    Kept d (d.remark e marks) where
  settings := h.settings
  faults := h.faults
  nodup := hNodup
  located := hLocated
  pages := rfl

theorem kept_verify (h : Kept d e) (hLack : Pages.Lack d.session.settings.marker d.pages)
    (text : String) (number : Nat) (faults : Faults) : Kept d (e.verify text number faults).2 := by
  rw [verify_of_kept h hLack]
  split
  · exact kept_remark h List.nodup_nil (by simp)
  · rename_i r hResolve
    have hSpots := resolve_spots text (Pages.page d.pages number) d.session.settings.textLimit
      (faults ++ d.faults)
    rw [resolve_of_resolve? hResolve] at hSpots
    obtain ⟨hSubset, hNodup⟩ := hSpots
    refine kept_remark h ?_ ?_
    · have hMarks : marksOf number r = (r.spots.map Spot.place).map (Mark.mk number) := by
        rw [marksOf, List.map_map]
        rfl
      rw [hMarks]
      exact hNodup.map fun p q hSame => by injection hSame
    · intro m hm
      obtain ⟨s, hs, rfl⟩ := List.mem_map.mp hm
      exact ⟨s, hSubset hs, rfl⟩

/-! ## Courses -/

/-- Every action keeps the pages, apart from marks. -/
theorem kept_act (h : Kept d e) (hLack : Pages.Lack d.session.settings.marker d.pages)
    (a : Action) : Kept d (e.act a).2 := by
  cases hVerify : a.isVerify with
  | false => exact h.of_sameMarks (act_frame e hVerify)
  | true =>
    cases a with
    | verify text number faults => exact kept_verify h hLack text number faults
    | _ => cases hVerify

/-- A course of actions keeps the pages up to marks. -/
theorem kept_run (h : Kept d e) (hLack : Pages.Lack d.session.settings.marker d.pages)
    (actions : List Action) : Kept d (e.run actions) := by
  induction actions generalizing e with
  | nil => exact h
  | cons a actions ih => exact ih (kept_act h hLack a)

/-- The marks after any course of actions on pages without marks: the session lists the elements with
the attribute, each of them once, the attribute has one value, and without it the pages are what they
were at the start. -/
theorem marks_run (d : Desk) (hMarked : d.session.marked = [])
    (hLack : Pages.Lack d.session.settings.marker d.pages) (actions : List Action) :
    let e := d.run actions
    let name := d.session.settings.marker
    e.session.settings = d.session.settings ∧ e.session.marked.Nodup ∧
      (∀ m : Mark, m ∈ e.session.marked ↔
        ∃ s ∈ (Pages.page e.pages m.page).elements, s.place = m.place ∧ s.attrs.has name = true) ∧
      (∀ page ∈ e.pages, ∀ s ∈ page.elements, s.attrs.has name = true →
        s.attrs.lookup name = some (.single "true")) ∧
      e.pages.map (Page.without name) = d.pages := by
  intro e name
  have h : Kept d e := kept_run (.refl hMarked) hLack actions
  -- The pages are those at the start with just the listed marks.
  refine ⟨h.settings, h.nodup, fun m => ?_, ?_, ?_⟩
  · have hLocated : ∀ place ∈ Pages.placesOn e.session.marked m.page,
        ∃ t ∈ (Pages.page d.pages m.page).elements, t.place = place := by
      intro place hPlace
      obtain ⟨m', hm', rfl⟩ := List.mem_map.mp hPlace
      obtain ⟨hm', hPage⟩ := List.mem_filter.mp hm'
      exact beq_iff_eq.mp hPage ▸ h.located m' hm'
    rw [h.pages, Pages.page_marked, Page.exists_marked_iff (hLack.page m.page) hLocated,
      Pages.mem_placesOn_iff]
  · intro page hPage s hs hHas
    rw [h.pages] at hPage
    obtain ⟨n, hn, rfl⟩ := List.mem_mapIdx.mp hPage
    exact Page.lookup_of_mem_markAt (hLack _ (List.getElem_mem hn)) hs hHas
  · rw [h.pages]
    exact Pages.map_without_marked hLack _

/-- A desk with two pages, of one note and of two. -/
def twoPages : Desk where
  pages :=
    let note : Node := .element "p" [] [.text .plain "Note"]
    [{ nodes := [note] }, { nodes := [note, note] }]

/-- One page is verified after the other, with a pick in between and a resolution that fails. -/
def bothVerified : List Action :=
  [.verify "p" 0 [], .arm none, .pick ⟨0, [0]⟩ [], .verify "p" 0 [⟨.resolution, "none"⟩],
    .verify "p" 1 []]

theorem marks_run_twoPages :
    twoPages.session.marked = [] ∧
      Pages.Lack twoPages.session.settings.marker twoPages.pages ∧
      (twoPages.run bothVerified).session.marked = [⟨1, [0]⟩, ⟨1, [1]⟩] ∧
      (∀ m : Mark, m ∈ (twoPages.run bothVerified).session.marked ↔
        ∃ s ∈ (Pages.page (twoPages.run bothVerified).pages m.page).elements, s.place = m.place ∧
          s.attrs.has twoPages.session.settings.marker = true) ∧
      (twoPages.run bothVerified).pages.map (Page.without twoPages.session.settings.marker) =
        twoPages.pages := by
  have hLack : Pages.Lack twoPages.session.settings.marker twoPages.pages := by decide +kernel
  obtain ⟨_, _, hMarks, _, hPages⟩ := marks_run twoPages rfl hLack bothVerified
  exact ⟨rfl, hLack, by decide +kernel, hMarks, hPages⟩

end Desk
end StableLocator
