import StableLocator.Proofs.Locator.Without
import StableLocator.Proofs.Session.Course

/-!
# Answers that do not depend on the past

Verifications leave marks on the pages, and later picks and verifications read these very pages. They
answer as on pages that nobody has touched: a verification clears all marks first, and a pick reads
nothing of a mark, unless the tag of the element names the attribute of the marks as a selector would.

* `Pages.spot` — the element at a mark;
* `Desk.spot_without_of_kept` — apart from marks it is the element of the untouched page;
* `Desk.answer_of_kept` — the answer to a pick;
* `Desk.run_history` — verifications and picks after any course of actions.
-/

namespace StableLocator

/-- The element at a mark, or the whole page, if there is none. -/
def Pages.spot (pages : Pages) (m : Mark) : Spot :=
  ((page pages m.page).find? m.place).getD (page pages m.page).root

theorem unread_defaultMarker : Unread defaultMarker := by decide

namespace Desk

variable {d e : Desk}

/-! ## Pages under marks -/

/-- The pages of a kept desk without their marks are the pages of the other one. -/
theorem page_without_of_kept (h : Kept d e) (hLack : Pages.Lack d.session.settings.marker d.pages)
    (number : Nat) :
    (Pages.page e.pages number).without d.session.settings.marker = Pages.page d.pages number := by
  rw [h.pages, Pages.page_marked, Page.without_markAt (hLack.page number)]

/-- The element at a mark of a kept desk, without the mark. -/
theorem spot_without_of_kept (h : Kept d e) (hLack : Pages.Lack d.session.settings.marker d.pages)
    (m : Mark) :
    (Pages.spot e.pages m).without d.session.settings.marker = Pages.spot d.pages m := by
  rw [Pages.spot, Pages.spot, ← page_without_of_kept h hLack, Page.find?_without, Page.root_without]
  cases (Pages.page e.pages m.page).find? m.place with
  | none => rfl
  | some s => rfl

/-! ## Picks -/

/-- A pick on pages with marks is answered as on the pages without them. -/
theorem answer_of_kept (h : Kept d e) (hLack : Pages.Lack d.session.settings.marker d.pages)
    (hName : Unread d.session.settings.marker) {m : Mark}
    (hSegment : Selector.Ignores d.session.settings.marker (Pages.spot d.pages m).segment)
    (faults : Faults) : e.answer m faults = d.answer m faults := by
  have hPage := page_without_of_kept h hLack m.page
  have hSpot := spot_without_of_kept h hLack m
  rw [← hSpot, Spot.segment_without hName] at hSegment
  have hFind (limit depth : Int) (faults : Faults) :
      (Target.of (Pages.page d.pages m.page) (Pages.spot d.pages m) limit depth faults).find =
        (Target.of (Pages.page e.pages m.page) (Pages.spot e.pages m) limit depth faults).find := by
    rw [← hPage, ← hSpot, Target.of_without hName]
    exact Target.find_without hName hSegment
  have hAnswer (f : Desk) : f.answer m faults = (faults ++ f.faults).guard .synthesis
      (Target.of (Pages.page f.pages m.page) (Pages.spot f.pages m) f.session.settings.textLimit
        f.session.settings.ancestorDepth (faults ++ f.faults)).find := rfl
  rw [hAnswer, hAnswer, hFind, h.settings, h.faults]

/-- What a pick answers and shows while the session waits for it. -/
theorem pick_of_answer {f : Finding} {m : Mark} {faults : Faults} (hArmed : e.session.armed = true)
    (h : e.answer m faults = .ok f) :
    (e.pick m faults).1 = some f ∧
      (e.pick m faults).2.session.panel = some
        { text := annotate (f.locator.render e.session.dialect) f.severity e.session.dialect
          severity := f.severity } := by
  have hPick : e.pick m faults = (some f, { e with session := answered e.session (.ok f) }) := by
    rw [pick, if_pos hArmed, h]
    rfl
  rw [hPick]
  exact ⟨rfl, rfl⟩

/-! ## Courses of actions -/

/-- After any course of actions, verifications and picks answer as on the untouched pages. The element
that is picked must have a tag without an opening bracket, or a segment that can be read and tests no
attribute of the marks. -/
theorem run_history (d : Desk) (hMarked : d.session.marked = [])
    (hMarker : d.session.settings.marker = defaultMarker)
    (hLack : Pages.Lack defaultMarker d.pages) (hFaults : d.faults = []) (actions : List Action) :
    let e := d.run actions
    let settings := d.session.settings
    (∀ text number, (e.verify text number).1 =
      resolve text (Pages.page d.pages number) settings.textLimit) ∧
    ∀ m, e.session.armed = true →
      ('[' ∉ (Pages.spot d.pages m).name.toList ∨
        Selector.Spares defaultMarker (Pages.spot d.pages m).segment) →
      let f := (Target.of (Pages.page d.pages m.page) (Pages.spot d.pages m) settings.textLimit
        settings.ancestorDepth).find
      (e.pick m).1 = some f ∧
        (e.pick m).2.session.panel = some
          { text := annotate (f.locator.render e.session.dialect) f.severity e.session.dialect
            severity := f.severity } := by
  intro e settings
  rw [← hMarker] at hLack
  -- All that the course leaves on the pages are marks, and these are looked through.
  have h : Kept d e := kept_run (.refl hMarked) hLack actions
  constructor
  · intro text number
    rw [verify_of_kept h hLack, hFaults, List.nil_append, resolve?, Faults.guard_nil]
  · intro m hArmed hSegment
    have hUnread : Unread d.session.settings.marker := hMarker ▸ unread_defaultMarker
    -- Of the selectors in a locator, only the segment is tried on the page and could meet the marks.
    have hIgnores : Selector.Ignores d.session.settings.marker (Pages.spot d.pages m).segment := by
      rcases hSegment with hTag | hSpares
      · exact Spot.ignores_segment hUnread hTag
      · exact hMarker ▸ hSpares.ignores
    have hAnswer : e.answer m [] = .ok (Target.of (Pages.page d.pages m.page)
        (Pages.spot d.pages m) settings.textLimit settings.ancestorDepth).find := by
      rw [answer_of_kept h hLack hUnread hIgnores, answer, hFaults, List.nil_append,
        Faults.guard_nil, Pages.spot]
    exact pick_of_answer hArmed hAnswer

/-- A desk with a page on which an element is told from its sibling by its position in a marked
ancestor. -/
def namedBox : Desk where
  pages :=
    let note : Node := .element "p" [] [.text .plain "Note"]
    [{ nodes := [.element "div" [("data-testid", .single "box")] [note, note]] }]

theorem run_history_namedBox :
    Pages.Lack defaultMarker namedBox.pages ∧
      (let e := namedBox.run [.verify "div, p" 0 [], .arm (some .js)]
      e.session.marked.length = 3 ∧
        (e.verify "p" 0).1 = resolve "p" (Pages.page namedBox.pages 0) defaultTextLimit ∧
        (e.pick ⟨0, [0, 1]⟩).1 = some (Target.of (Pages.page namedBox.pages 0)
          (Pages.spot namedBox.pages ⟨0, [0, 1]⟩) defaultTextLimit defaultAncestorDepth).find) := by
  have hLack : Pages.Lack defaultMarker namedBox.pages := by decide +kernel
  obtain ⟨hVerify, hPick⟩ :=
    run_history namedBox rfl rfl hLack rfl [.verify "div, p" 0 [], .arm (some .js)]
  exact ⟨hLack, by decide +kernel, hVerify "p" 0,
    (hPick ⟨0, [0, 1]⟩ (by decide +kernel) (.inl (by decide +kernel))).1⟩

/-- A desk with a page on which the tag of an element reads as a selector for marks. -/
def markedTag : Desk where
  pages :=
    [{ nodes := [.element "div" [("data-testid", .single "d")]
        [.element ("x,[" ++ defaultMarker ++ "]") [] []]] }]

/-- A tag is written into a segment as it stands. Where it reads as a test of marks, the element is
found by its segment once it is marked, and a locator by an ancestor takes the place of the path. -/
theorem pick_markedTag :
    Pages.Lack defaultMarker markedTag.pages ∧
      (let e := markedTag.run [.verify "div *" 0 [], .arm none]
      e.session.armed = true ∧
        (e.pick ⟨0, [0, 0]⟩).1 ≠ some (Target.of (Pages.page markedTag.pages 0)
          (Pages.spot markedTag.pages ⟨0, [0, 0]⟩) defaultTextLimit defaultAncestorDepth).find) := by
  decide +kernel

end Desk
end StableLocator
