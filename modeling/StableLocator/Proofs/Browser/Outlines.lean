import StableLocator.Proofs.Browser.Frame
import StableLocator.Proofs.Browser.Numbered
import StableLocator.Proofs.Locator.Path
import StableLocator.Proofs.Markup.Paragraph
import StableLocator.Proofs.Session.Course

/-!
# Outlines of what was found

A verification in a browser works on a snapshot, and the page outlines what was found there by the
numbers that the snapshot bears.

* `Picker.found`, `Picker.marked` — what a text resolves to on a snapshot, and the picker with marks for it;
* `Picker.markedStamps_marked` — the stamps of what was found are its numbers;
* `Picker.verify_of_stamps` and `Picker.verify_of_error` — a verification with stamps that can be read, and
  with one that cannot;
* `Picker.run_verify_outlines` — a verification after any course of commands.
-/

namespace StableLocator
namespace Picker

variable {p : Picker} {text : String} {page : Page} {number : Place → Nat}

/-! ## Marks -/

def found (p : Picker) (text : String) (page : Page) : Resolution :=
  ((p.desk.take page).2.verify text (p.desk.take page).1).1

def marked (p : Picker) (text : String) (page : Page) : Picker :=
  { p with
    desk := ((p.desk.take page).2.verify text (p.desk.take page).1).2
    calls := p.calls ++ [.evaluate .snapshot snapshotArgument] }

/-- On a desk without any marks, a text resolves to what it does on the snapshot alone. -/
theorem found_of_unmarked (hMarked : p.session.marked = []) (hFaults : p.desk.faults = [])
    (hLack : Pages.Lack p.session.settings.marker (p.desk.take page).2.pages) (text : String) :
    p.found text page = resolve text page p.session.settings.textLimit := by
  have hKept : Desk.Kept (p.desk.take page).2 (p.desk.take page).2 := .refl hMarked
  have hPage : Pages.page (p.desk.take page).2.pages (p.desk.take page).1 = page := by
    simp [Pages.page, Desk.take]
  have hNone : [] ++ (p.desk.take page).2.faults = [] := hFaults
  have hSession : (p.desk.take page).2.session = p.session := rfl
  rw [found, Desk.verify_of_kept hKept hLack, hPage, hNone, hSession, resolve?, Faults.guard_nil]

/-- Nothing happens to panels while marks are made. -/
theorem move_snapshot (hAttached : p.attached = true) (text : String) (page : Page) :
    p.snapshot.2.move ((p.desk.take page).2.verify text (p.desk.take page).1).2 = p.marked text page := by
  obtain ⟨marked, hSession⟩ := (p.desk.take page).2.session_verify text (p.desk.take page).1 []
  have hHistory := congrArg Session.history hSession
  have hAsked : p.snapshot.2.attached = true := hAttached
  rw [move_eq hAsked (hHistory.trans (List.append_nil _).symm)]
  exact congrArg (fun calls => { p.marked text page with calls }) (List.append_nil _)

/-- The snapshot among the pages of the desk, once it bears the marks for what a text resolves to. -/
def outlined (p : Picker) (text : String) (page : Page) : Page :=
  Pages.page (p.marked text page).desk.pages p.desk.pages.length

/-- What is found bears its number, and is on the snapshot as it was taken and on the one with marks, which
leave the numbers alone. -/
theorem outlined_spec (hNumbered : page.NumberedBy number)
    (hMarker : indexStamp ≠ p.session.settings.marker) :
    (p.outlined text page).NumberedBy number ∧
      ∀ s ∈ (p.found text page).spots, s.attr? indexStamp = some (Nat.repr (number s.place)) ∧
        (∃ t ∈ page.elements, t.place = s.place) ∧
        ∃ t ∈ (p.outlined text page).elements, t.place = s.place := by
  obtain ⟨hFound, _, hMarked⟩ := (p.desk.take page).2.verify_spec text (p.desk.take page).1 []
  have hPage : Pages.page (p.desk.take page).2.pages (p.desk.take page).1 = page := by
    simp [Pages.page, Desk.take]
  rw [Pages.page_clear, hPage] at hFound hMarked
  have hOutlined : p.outlined text page = _ := hMarked
  have hCleared := (hNumbered.eraseAt hMarker
    (Pages.placesOn p.session.marked p.desk.pages.length)).eraseAt hMarker
  rw [hOutlined]
  refine ⟨(hCleared _).markAt hMarker _, fun s hs => ⟨(hCleared _).stamp s (hFound hs), ?_, ?_⟩⟩
  · obtain ⟨t, ht, hPlace, _⟩ := Page.exists_of_mem_mapAttrs (hFound hs)
    obtain ⟨u, hu, hSame, _⟩ := Page.exists_of_mem_mapAttrs ht
    exact ⟨u, hu, hSame.trans hPlace⟩
  · obtain ⟨t, ht, hPlace, _⟩ := Page.exists_mem_markAt (hFound hs) _ _
    exact ⟨t, ht, hPlace⟩

theorem isDigit_of_mem_repr {n : Nat} {c : Char} (hc : c ∈ (Nat.repr n).toList) : Text.isDigit c = true := by
  rw [Nat.toList_repr] at hc
  have hDigit := Number.isDigit_of_mem_toDigits hc
  have hCode := Text.isDigit_iff.mp hDigit
  rwa [Text.isDigit, if_pos (by omega)]

/-- The stamps of the marked elements are the numbers of what was found, in order. -/
theorem markedStamps_marked (hNumbered : page.NumberedBy number)
    (hMarker : indexStamp ≠ p.session.settings.marker) :
    (p.marked text page).markedStamps =
      (p.found text page).spots.map fun s => Nat.repr (number s.place) := by
  obtain ⟨hOutlined, hSpots⟩ := @outlined_spec p text page number hNumbered hMarker
  obtain ⟨_, hSession, _⟩ := (p.desk.take page).2.verify_spec text (p.desk.take page).1 []
  have hMarks : (p.marked text page).session.marked =
      (p.found text page).spots.map fun s => ⟨p.desk.pages.length, s.place⟩ :=
    congrArg Session.marked hSession
  rw [markedStamps, hMarks, List.filterMap_map, ← List.filterMap_eq_map]
  refine List.filterMap_congr fun s hs => ?_
  obtain ⟨_, _, t, ht, hPlace⟩ := hSpots s hs
  have hStamp : ((p.outlined text page).find? s.place).bind (·.attr? indexStamp) =
      some (Nat.repr (number s.place)) := hPlace ▸ hOutlined.stamp_find? ht
  obtain ⟨u, hu, hNumeral⟩ := Option.bind_eq_some_iff.mp hStamp
  have hSome : Nat.repr (number s.place) ≠ "" := by
    intro hNone
    have hChars := congrArg String.toList hNone
    rw [Nat.toList_repr] at hChars
    exact Nat.toDigits_ne_nil hChars
  have hDigits : (Nat.repr (number s.place)).toList.all Text.isDigit = true :=
    List.all_eq_true.mpr fun c hc => isDigit_of_mem_repr hc
  rw [outlined] at hu
  simp only [Function.comp_apply, hu, Option.bind_eq_bind, Option.bind_some, hNumeral]
  exact if_pos ⟨hSome, hDigits⟩

/-! ## Verification -/

def outlineCall (marker : String) (numbers : List Nat) : Call :=
  .evaluate .mark
    (.obj [("indices", .arr (numbers.map fun n : Nat => .int n)), ("marker", .str marker)])

/-- The page is told once, and only its answer can be of no use. -/
theorem outline_spec (p : Picker) (numbers : List Nat) :
    ∃ outcome, p.outline (numbers.map Int.ofNat) =
        (outcome, p.ask (outlineCall p.session.settings.marker numbers)) ∧
      (outcome = .ok () ∨ outcome = .error .countNotANumber ∨
        ∃ e, outcome = .error (.countInfinite e)) := by
  refine ⟨(p.outline (numbers.map Int.ofNat)).1, ?_, ?_⟩
  · have hIndices : (numbers.map Int.ofNat).map Json.int = numbers.map fun n : Nat => .int n :=
      List.map_map
    refine Prod.ext rfl ?_
    rw [outlineCall, ← hIndices]
    rfl
  · unfold outline
    dsimp only
    split
    · exact .inr (.inl rfl)
    · exact .inr (.inr ⟨_, rfl⟩)
    · exact .inl rfl

/-- Stamps that can be read are told to the page, which then may answer with what is no number. -/
theorem verify_of_stamps (hAttached : p.attached = true) (hSnapshot : p.snapshot.1 = .ok page)
    {numbers : List Nat}
    (hStamps : (p.marked text page).markedStamps.mapM Number.readInteger =
      .ok (numbers.map Int.ofNat)) :
    (p.verify text).2.calls = p.calls ++ [.evaluate .snapshot snapshotArgument,
        outlineCall (p.marked text page).session.settings.marker numbers] ∧
      (p.verify text).2.desk = (p.marked text page).desk ∧
      ((p.verify text).1 = .ok (p.found text page) ∨ (p.verify text).1 = .error .countNotANumber ∨
        ∃ e, (p.verify text).1 = .error (.countInfinite e)) := by
  have hShot : p.snapshot = (.ok page, p.snapshot.2) := by rw [← hSnapshot]
  have hMove := move_snapshot hAttached text page
  have hDesk : p.snapshot.2.desk = p.desk := rfl
  rw [verify, if_pos hAttached, hShot]
  dsimp only
  rw [hDesk, hMove, hStamps]
  obtain ⟨outcome, hOutline, hOutcome⟩ := (p.marked text page).outline_spec numbers
  have hCalls : ((p.marked text page).ask
      (outlineCall (p.marked text page).session.settings.marker numbers)).calls = p.calls ++
        [.evaluate .snapshot snapshotArgument,
          outlineCall (p.marked text page).session.settings.marker numbers] :=
    List.append_assoc _ _ _
  dsimp only
  rw [hOutline]
  rcases hOutcome with rfl | rfl | ⟨e, rfl⟩
  · exact ⟨hCalls, rfl, .inl rfl⟩
  · exact ⟨hCalls, rfl, .inr (.inl rfl)⟩
  · exact ⟨hCalls, rfl, .inr (.inr ⟨e, rfl⟩)⟩

/-- A stamp that cannot be read ends the verification before the page is told anything. -/
theorem verify_of_error (hAttached : p.attached = true) (hSnapshot : p.snapshot.1 = .ok page)
    {e : Number.IntegerError}
    (hStamps : (p.marked text page).markedStamps.mapM Number.readInteger = .error e) :
    p.verify text = (.error (.index e), p.marked text page) := by
  have hShot : p.snapshot = (.ok page, p.snapshot.2) := by rw [← hSnapshot]
  have hMove := move_snapshot hAttached text page
  have hDesk : p.snapshot.2.desk = p.desk := rfl
  rw [verify, if_pos hAttached, hShot]
  dsimp only
  rw [hDesk, hMove, hStamps]

/-! ## Numbers -/

theorem settings_marked (p : Picker) (text : String) (page : Page) :
    (p.marked text page).session.settings = p.session.settings := by
  obtain ⟨_, hSession, _⟩ := (p.desk.take page).2.verify_spec text (p.desk.take page).1 []
  exact (congrArg Session.settings hSession :)

/-- If all numbers of what is found can be read, the page is told them, and each of them leads back. -/
theorem verify_of_few (hAttached : p.attached = true) (hSnapshot : p.snapshot.1 = .ok page)
    (hNumbered : page.NumberedBy number) (hMarker : indexStamp ≠ p.session.settings.marker)
    (hFew : ∀ s ∈ (p.found text page).spots,
      (Nat.toDigits 10 (number s.place)).length ≤ Number.digitLimit) :
    let after := Pages.page (p.verify text).2.desk.pages p.desk.pages.length
    (p.verify text).2.calls = p.calls ++ [.evaluate .snapshot snapshotArgument,
        outlineCall p.session.settings.marker
          ((p.found text page).spots.map fun s => number s.place)] ∧
      ((p.verify text).1 = .ok (p.found text page) ∨ (p.verify text).1 = .error .countNotANumber ∨
        ∃ e, (p.verify text).1 = .error (.countInfinite e)) ∧
      ∀ s ∈ (p.found text page).spots,
        s.attr? indexStamp = some (Nat.repr (number s.place)) ∧
        (page.atIndex? (number s.place)).map Spot.place = some s.place ∧
        (after.atIndex? (number s.place)).map Spot.place = some s.place := by
  have hStamps : (p.marked text page).markedStamps.mapM Number.readInteger =
      .ok (((p.found text page).spots.map fun s => number s.place).map Int.ofNat) := by
    rw [markedStamps_marked hNumbered hMarker, List.mapM_map, List.map_map]
    refine mapM_eq_ok fun s hs => ?_
    rw [Function.comp_apply, Number.readInteger_repr, if_neg (Nat.not_lt.mpr (hFew s hs))]
    rfl
  -- With all stamps read, verifying goes through to its end.
  obtain ⟨hCalls, hDesk, hAnswer⟩ := verify_of_stamps hAttached hSnapshot hStamps
  obtain ⟨hOutlined, hSpots⟩ := @outlined_spec p text page number hNumbered hMarker
  rw [settings_marked] at hCalls
  refine ⟨hCalls, hAnswer, fun s hs => ?_⟩
  obtain ⟨hStamp, ⟨t, ht, hPlace⟩, u, hu, hSame⟩ := hSpots s hs
  have hBefore := hNumbered.atIndex? ht (hPlace.symm ▸ hFew s hs)
  have hAfter := hOutlined.atIndex? hu (hSame.symm ▸ hFew s hs)
  rw [hPlace] at hBefore
  rw [hSame] at hAfter
  rw [hBefore, hDesk, ← outlined, hAfter, Option.map_some, Option.map_some, hPlace, hSame]
  exact ⟨hStamp, rfl, rfl⟩

/-- If a number of what is found has too many digits, the page is told nothing. -/
theorem verify_of_many (hAttached : p.attached = true) (hSnapshot : p.snapshot.1 = .ok page)
    (hNumbered : page.NumberedBy number) (hMarker : indexStamp ≠ p.session.settings.marker)
    (hMany : ∃ s ∈ (p.found text page).spots,
      Number.digitLimit < (Nat.toDigits 10 (number s.place)).length) :
    (p.verify text).2.calls = p.calls ++ [.evaluate .snapshot snapshotArgument] ∧
      ∃ s ∈ (p.found text page).spots,
        (p.verify text).1 =
          .error (.index (.tooLong (Nat.toDigits 10 (number s.place)).length)) := by
  have hRead : ∃ s ∈ (p.found text page).spots, ∃ e,
      (Number.readInteger ∘ fun s => Nat.repr (number s.place)) s = .error e := by
    obtain ⟨s, hs, hDigits⟩ := hMany
    exact ⟨s, hs, _, by rw [Function.comp_apply, Number.readInteger_repr, if_pos hDigits]⟩
  obtain ⟨s, hs, e, hError, hStamps⟩ := mapM_eq_error hRead
  have hMarked : (p.marked text page).markedStamps.mapM Number.readInteger = .error e := by
    rwa [markedStamps_marked hNumbered hMarker, List.mapM_map]
  rw [verify_of_error hAttached hSnapshot hMarked]
  refine ⟨rfl, s, hs, ?_⟩
  rw [Function.comp_apply, Number.readInteger_repr] at hError
  split at hError
  · rw [← Except.error.inj hError]
  · cases hError

/-- A verification after any course of commands, on a snapshot whose elements are numbered, where marks are
not made with the index stamp itself. What the text resolves to bears its numbers. The page is told once to
outline elements, and these are the ones that were found, in order and by their numbers, each of which leads
back to the element it came from, on the snapshot as it was taken and with its marks. Only if a number that
was found has too many digits, the page is told nothing, and the verification fails for such a number. -/
theorem run_verify_outlines (hp : p.Open) (hMarker : indexStamp ≠ p.session.settings.marker)
    (commands : List Command) (text : String) (hSnapshot : (p.run commands).snapshot.1 = .ok page)
    (hNumbered : page.NumberedBy number) :
    let q := p.run commands
    let r := q.found text page
    let numbers := r.spots.map fun s => number s.place
    let after := Pages.page (q.verify text).2.desk.pages q.desk.pages.length
    numbers.length = r.count ∧
      ((∀ n ∈ numbers, (Nat.toDigits 10 n).length ≤ Number.digitLimit) →
        (q.verify text).2.calls = q.calls ++ [.evaluate .snapshot snapshotArgument,
            outlineCall p.session.settings.marker numbers] ∧
          ((q.verify text).1 = .ok r ∨ (q.verify text).1 = .error .countNotANumber ∨
            ∃ e, (q.verify text).1 = .error (.countInfinite e)) ∧
          ∀ s ∈ r.spots, s.attr? indexStamp = some (Nat.repr (number s.place)) ∧
            (page.atIndex? (number s.place)).map Spot.place = some s.place ∧
            (after.atIndex? (number s.place)).map Spot.place = some s.place) ∧
      ((∃ n ∈ numbers, Number.digitLimit < (Nat.toDigits 10 n).length) →
        (q.verify text).2.calls = q.calls ++ [.evaluate .snapshot snapshotArgument] ∧
          ∃ n ∈ numbers, (q.verify text).1 = .error (.index (.tooLong (Nat.toDigits 10 n).length))) := by
  intro q r numbers after
  have hAttached : q.attached = true := (hp.run commands).attached
  have hSettings : q.session.settings = p.session.settings := p.settings_run commands
  have hHere : indexStamp ≠ q.session.settings.marker := hSettings ▸ hMarker
  -- The course matters only by keeping the settings and the attachment.
  refine ⟨List.length_map _, fun hFew => ?_, fun hMany => ?_⟩
  · have hDone := verify_of_few hAttached hSnapshot hNumbered hHere (List.forall_mem_map.mp hFew)
    rwa [hSettings] at hDone
  · obtain ⟨_, hn, hDigits⟩ := hMany
    obtain ⟨s, hs, rfl⟩ := List.mem_map.mp hn
    obtain ⟨hCalls, t, ht, hError⟩ :=
      verify_of_many hAttached hSnapshot hNumbered hHere ⟨s, hs, hDigits⟩
    exact ⟨hCalls, _, List.mem_map_of_mem ht, hError⟩

/-- A page with two notes, numbered from the last one on. -/
def notesStage : Stage :=
  { snapshot := .obj
      [("html", .str "<p data-locator-index=1>Note</p><p data-locator-index=0>Note</p>")] }

def opened (stage : Stage) (settings : Settings) : Picker :=
  ({ stage, desk := { session := { settings } } } : Picker).attach

/-- One note is found, a note is picked, and both are found. -/
def earlierNotes : List Command :=
  [.verify "p:first-child", .arm none, .event (.report [("index", .int 0)]), .process, .verify "p"]

theorem run_verify_outlines_notes :
    let number : Place → Nat := fun place => 1 - place.headD 0
    (opened notesStage {}).Open ∧ indexStamp ≠ (opened notesStage {}).session.settings.marker ∧
      ((opened notesStage {}).run earlierNotes).results.length = 1 ∧
      ∃ page, ((opened notesStage {}).run earlierNotes).snapshot.1 = .ok page ∧ page.NumberedBy number ∧
        (((opened notesStage {}).run earlierNotes).verify "p").2.calls =
          ((opened notesStage {}).run earlierNotes).calls ++ [.evaluate .snapshot snapshotArgument,
            outlineCall (opened notesStage {}).session.settings.marker [1, 0]] := by
  intro number
  have hOpen : (opened notesStage {}).Open := open_attach _
  have hMarker : indexStamp ≠ (opened notesStage {}).session.settings.marker := by decide +kernel
  obtain ⟨page, hSnapshot, hNumbered, hFound⟩ : ∃ page,
      ((opened notesStage {}).run earlierNotes).snapshot.1 = .ok page ∧ page.NumberedBy number ∧
      (((opened notesStage {}).run earlierNotes).found "p" page).spots.map (fun s => number s.place) = [1, 0] :=
    exists_ok_of_any (by decide +kernel)
  have hFew : ∀ n ∈ [1, 0], (Nat.toDigits 10 n).length ≤ Number.digitLimit := by decide
  obtain ⟨_, hOutline, _⟩ := run_verify_outlines hOpen hMarker earlierNotes "p" hSnapshot hNumbered
  rw [hFound] at hOutline
  exact ⟨hOpen, hMarker, by decide +kernel, page, hSnapshot, hNumbered, (hOutline hFew).1⟩

/-! ## Stamps that are not outlined -/

def lonePage (n : Nat) : Page := ⟨[.element "p" [(indexStamp, .single (Nat.repr n))] []], "", ""⟩

def loneSpot (n : Nat) : Spot :=
  ⟨"p", [(indexStamp, .single (Nat.repr n))], [], .inside "[document]" [] [] [] .document⟩

def loneStage (n : Nat) : Stage :=
  { snapshot := .obj
      [("html", .str (String.ofList (Markup.paragraphWith indexStamp.toList (Nat.toDigits 10 n))))] }

theorem elements_lonePage (n : Nat) : (lonePage n).elements = [loneSpot n] := rfl

theorem numberedBy_lonePage (n : Nat) : (lonePage n).NumberedBy fun _ => n := by
  refine ⟨fun s hs => ?_, fun s hs t ht _ => ?_⟩
  · rw [elements_lonePage, List.mem_singleton] at hs
    rw [hs]
    rfl
  · rw [elements_lonePage, List.mem_singleton] at hs ht
    rw [hs, ht]

theorem snapshot_loneStage (n : Nat) (settings : Settings) :
    (opened (loneStage n) settings).snapshot.1 = .ok (lonePage n) := by
  have hName : Markup.IsAttrName indexStamp.toList :=
    ⟨⟨'d', "ata-locator-index".toList, rfl, by decide, by decide⟩, by decide⟩
  have hDigits (c : Char) (hc : c.isDigit = false) : c ∉ Nat.toDigits 10 n := fun hMem => by
    rw [Number.isDigit_of_mem_toDigits hMem] at hc
    cases hc
  have hRead := Page.read_paragraphWith hName (hDigits '"' (by decide)) (hDigits '&' (by decide)) ""
  have hAnswer : (opened (loneStage n) settings).stage.evaluate
      (opened (loneStage n) settings).calls.length .snapshot snapshotArgument =
        .ok (loneStage n).snapshot := rfl
  have hSome : String.ofList (Markup.paragraphWith indexStamp.toList (Nat.toDigits 10 n)) ≠ "" := by
    intro hNone
    have hChars := congrArg String.toList hNone
    rw [String.toList_ofList] at hChars
    cases hChars
  have hShown : ((loneStage n).snapshot.getD "html").shown =
      String.ofList (Markup.paragraphWith indexStamp.toList (Nat.toDigits 10 n)) :=
    if_pos (decide_eq_true hSome)
  have hUrl : ((loneStage n).snapshot.getD "url").shown = "" := rfl
  rw [snapshot, evaluate]
  dsimp only
  rw [hAnswer]
  dsimp only
  rw [Page.ofSnapshot, hShown, hUrl, hRead]
  rfl

theorem mem_resolve_lonePage (n : Nat) (limit : Int) :
    loneSpot n ∈ (resolve "p" (lonePage n) limit).spots := by
  have hMem : loneSpot n ∈ (lonePage n).elements := List.mem_singleton_self _
  have hName : (loneSpot n).name = "p" := by
    have hLower : Text.lower "p" = "p" := by decide
    exact hLower
  have hTag : (loneSpot n).tagSelector = "p" := by
    rw [Spot.tagSelector, hName]
    rfl
  obtain ⟨found, hSelect, hFound⟩ := Spot.mem_select?_tagSelector hMem (by rw [hName]; decide)
  rw [hTag] at hSelect
  have hTrim : Text.trim "p" = "p" := by decide
  have hCall : looksLikeCall "p" = false := by
    simp [looksLikeCall, containsCall, beginsCall, Text.afterAlike?]
  rw [resolve, hTrim, if_neg (by decide), resolveSelector, hCall, hSelect]
  cases found with
  | nil => cases hFound
  | cons s found => exact hFound

/-- The paragraph is found by its tag. -/
theorem mem_found_loneStage (n : Nat) :
    loneSpot n ∈ ((opened (loneStage n) {}).found "p" (lonePage n)).spots := by
  have hLack : Pages.Lack defaultMarker [lonePage n] := by
    intro page hPage s hs
    rw [List.mem_singleton.mp hPage, elements_lonePage, List.mem_singleton] at hs
    rw [hs]
    rfl
  have hPages : ((opened (loneStage n) {}).desk.take (lonePage n)).2.pages = [lonePage n] := rfl
  have hFound := found_of_unmarked (p := opened (loneStage n) {}) rfl rfl (hPages ▸ hLack) "p"
  rw [hFound]
  exact mem_resolve_lonePage n _

theorem open_opened (stage : Stage) (settings : Settings) : (opened stage settings).Open := open_attach _

/-- A stamp with too many digits is not told to the page. -/
theorem calls_verify_loneStage {n : Nat} (hMany : Number.digitLimit < (Nat.toDigits 10 n).length) :
    ((opened (loneStage n) {}).verify "p").2.calls =
      (opened (loneStage n) {}).calls ++ [.evaluate .snapshot snapshotArgument] := by
  have hMarker : indexStamp ≠ defaultMarker := by decide
  obtain ⟨hCalls, _⟩ := verify_of_many (open_opened _ _).attached (snapshot_loneStage n {})
    (numberedBy_lonePage n) hMarker ⟨loneSpot n, mem_found_loneStage n, hMany⟩
  exact hCalls

/-- Marks that are made with the index stamp itself take the place of the stamps. -/
theorem calls_verify_marking :
    let p := opened (loneStage 0) { marker := indexStamp }
    0 < (p.found "p" (lonePage 0)).count ∧
      (p.verify "p").2.calls =
        p.calls ++ [.evaluate .snapshot snapshotArgument, outlineCall indexStamp []] := by
  intro p
  have hLost : 0 < (p.found "p" (lonePage 0)).count ∧ (p.marked "p" (lonePage 0)).markedStamps = [] := by
    decide +kernel
  have hStamps : (p.marked "p" (lonePage 0)).markedStamps.mapM Number.readInteger =
      .ok (([] : List Nat).map Int.ofNat) := by
    rw [hLost.2]
    rfl
  obtain ⟨hCalls, _⟩ := verify_of_stamps (open_opened _ _).attached (snapshot_loneStage 0 _) hStamps
  rw [settings_marked] at hCalls
  exact ⟨hLost.1, hCalls⟩

/-- Two snapshots with one stamp, that of what is found, which the page is not told: where marks are made with
the index stamp itself, the stamp is lost, and where it has too many digits, it cannot be read. -/
theorem verify_loneStage :
    let p := opened (loneStage 0) { marker := indexStamp }
    let far := Nat.pow 10 Number.digitLimit
    let q := opened (loneStage far) {}
    (p.Open ∧ p.snapshot.1 = .ok (lonePage 0) ∧ (lonePage 0).NumberedBy (fun _ => 0) ∧
        0 < (p.found "p" (lonePage 0)).count ∧
        (p.verify "p").2.calls =
          p.calls ++ [.evaluate .snapshot snapshotArgument, outlineCall indexStamp []]) ∧
      q.Open ∧ q.snapshot.1 = .ok (lonePage far) ∧ (lonePage far).NumberedBy (fun _ => far) ∧
        0 < (q.found "p" (lonePage far)).count ∧
        (q.verify "p").2.calls = q.calls ++ [.evaluate .snapshot snapshotArgument] := by
  have hFound (n : Nat) : 0 < ((opened (loneStage n) {}).found "p" (lonePage n)).count :=
    List.length_pos_of_mem (mem_found_loneStage n)
  have hMany : Number.digitLimit < (Nat.toDigits 10 (Nat.pow 10 Number.digitLimit)).length :=
    Number.lt_length_toDigits (by decide) (Nat.le_refl _)
  have hFar := calls_verify_loneStage hMany
  obtain ⟨hLost, hCalls⟩ := calls_verify_marking
  exact ⟨⟨open_opened _ _, snapshot_loneStage 0 _, numberedBy_lonePage 0, hLost, hCalls⟩,
    open_opened _ _, snapshot_loneStage _ {}, numberedBy_lonePage _, hFound _, hFar⟩

end Picker
end StableLocator
