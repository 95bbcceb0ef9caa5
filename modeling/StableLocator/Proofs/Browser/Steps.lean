import StableLocator.Browser.Picker
import StableLocator.Proofs.Session.Frame

/-!
# Steps of a picker

Most of what a picker does is asking the page and telling the user, and nothing else depends on it.

* `Picker.books` — a picker apart from what it asked and told, which the scripts in the page leave
  alone;
* `Picker.books_move` — carrying panels over to the page changes nothing but the desk;
* `Report.Fails` — a click that cannot be handled, because of its index or for want of a snapshot;
* `Picker.Settled` — a click has been handled well;
* `Picker.handleSafely_pick_cases` — a click that somebody waits for fails or is settled.
-/

namespace StableLocator
namespace Picker

variable {p q : Picker}

/-! ## Books -/

/-- A picker apart from what it asked of the page and told the user. -/
def books (p : Picker) : Picker := { p with calls := [], statuses := [] }

theorem session_of_books (h : q.books = p.books) : q.session = p.session :=
  show q.books.session = p.books.session from congrArg _ h

theorem stage_of_books (h : q.books = p.books) : q.stage = p.stage :=
  show q.books.stage = p.books.stage from congrArg _ h

theorem attached_of_books (h : q.books = p.books) : q.attached = p.attached :=
  show q.books.attached = p.books.attached from congrArg _ h

theorem bound_of_books (h : q.books = p.books) : q.bound = p.bound :=
  show q.books.bound = p.books.bound from congrArg _ h

theorem pending_of_books (h : q.books = p.books) : q.pending = p.pending :=
  show q.books.pending = p.books.pending from congrArg _ h

theorem results_of_books (h : q.books = p.books) : q.results = p.results :=
  show q.books.results = p.books.results from congrArg _ h

theorem announced_of_books (h : q.books = p.books) : q.announced = p.announced :=
  show q.books.announced = p.books.announced from congrArg _ h

theorem books_tell (p : Picker) (message : String) : (p.tell message).books = p.books := rfl

theorem books_snapshot (p : Picker) : p.snapshot.2.books = p.books := rfl

theorem books_inject (p : Picker) (armed : Bool) : (p.inject armed).books = p.books := by
  unfold inject
  dsimp only
  split
  · rfl
  · rfl

/-- A panel event that is carried over is asked for and not entered in the books. -/
theorem books_carry (p : Picker) (e : PanelEvent) : (p.carry e).books = p.books := by
  unfold carry
  split
  · cases e <;> rfl
  · rfl

theorem books_foldl_carry (news : List PanelEvent) (p : Picker) :
    (news.foldl carry p).books = p.books := by
  induction news generalizing p with
  | nil => rfl
  | cons e news ih => rw [List.foldl_cons, ih, books_carry]

/-- Whatever panels are carried over, only the desk changes. -/
theorem books_move (p : Picker) (desk : Desk) : (p.move desk).books = { p with desk }.books :=
  books_foldl_carry _ _

/-- A session that moves changes the desk alone. -/
theorem books_moveSession (p : Picker) (s : Session) :
    (p.moveSession s).books = { p with desk := { p.desk with session := s } }.books :=
  books_move p _

end Picker

/-! ## Clicks -/

/-- A click cannot be handled: its index is infinite, or it has an index and no snapshot can be taken
of the page. -/
def Report.Fails (r : Report) (p : Picker) : Prop :=
  (∃ e, r.index? = .error e) ∨
    ∃ index fault, r.index? = .ok (some index) ∧ p.snapshot.1 = .error fault

namespace Picker

variable {p : Picker} {r : Report}

/-- One click has been handled well: nobody waits any more, and at most one result was kept and handed
out. -/
def Settled (p q : Picker) : Prop :=
  ∃ desk : Desk, desk.session.armed = false ∧ ∃ new : List Result, new.length ≤ 1 ∧
    q.books = { p with desk, results := p.results ++ new, announced := p.announced ++ new }.books

/-- A click is settled also if the books were the same before it. -/
theorem Settled.of_books {p p' q : Picker} (h : p'.books = p.books) (hq : Settled p' q) :
    Settled p q := by
  obtain ⟨desk, hArmed, new, hNew, hBooks⟩ := hq
  refine ⟨desk, hArmed, new, hNew, hBooks.trans ?_⟩
  exact congrArg (fun b : Picker =>
    { b with desk, results := b.results ++ new, announced := b.announced ++ new }) h

/-- A click of no use is settled without a result. -/
theorem settled_dismiss (p : Picker) (message : String) : Settled p (p.dismiss message) := by
  refine ⟨{ p.desk with session := p.session.disarm.2 }, rfl, [], Nat.zero_le 1, ?_⟩
  rw [List.append_nil, List.append_nil, dismiss, books_tell]
  exact p.books_moveSession _

/-- A pick at a place of a snapshot ends the waiting, and gives at most one result. -/
theorem settled_pickAt (p : Picker) (page : Page) (place : Place) :
    Settled p (p.pickAt page place) := by
  unfold pickAt
  dsimp only
  generalize hPick : (p.desk.take page).2.pick ⟨(p.desk.take page).1, place⟩ = picked
  have hArmed : picked.2.session.armed = false := by
    rw [← hPick]
    exact Desk.armed_pick _ _ _
  have hMove := p.books_move picked.2
  split
  · -- The result is put into the lists that moving the desk leaves alone.
    rename_i f _
    let result : Result := ⟨(p.desk.take page).1, f, p.session.dialect⟩
    refine ⟨picked.2, hArmed, [result], Nat.le_refl 1, ?_⟩
    exact congrArg (fun b : Picker =>
      { b with results := b.results ++ [result], announced := b.announced ++ [result] }) hMove
  · refine ⟨picked.2, hArmed, [], Nat.zero_le 1, ?_⟩
    rw [List.append_nil, List.append_nil]
    exact hMove

/-- Handling a click while nobody waits changes nothing. -/
theorem handlePick_of_idle (h : (p.attached && p.session.armed) = false) :
    p.handlePick r = (.ok (), p) := by
  unfold handlePick
  rw [h]
  rfl

/-- While somebody waits, a click either fails and leaves the books as they are, or it is settled. -/
theorem handlePick_cases (h : (p.attached && p.session.armed) = true) :
    (r.Fails p ∧ ∃ fault q, p.handlePick r = (.error fault, q) ∧ q.books = p.books) ∨
      (¬ r.Fails p ∧ ∃ q, p.handlePick r = (.ok (), q) ∧ Settled p q) := by
  unfold handlePick
  rw [h, if_pos rfl]
  -- A click fails at its index or at the snapshot; after that it is settled.
  cases hIndex : r.index? with
  | error e => exact .inl ⟨.inl ⟨e, hIndex⟩, _, _, rfl, rfl⟩
  | ok index? =>
    cases index? with
    | none =>
      refine .inr ⟨?_, _, rfl, p.settled_dismiss _⟩
      rintro (⟨e, hError⟩ | ⟨index, fault, hSome, _⟩)
      · simp [hIndex] at hError
      · simp [hIndex] at hSome
    | some index =>
      cases hShot : p.snapshot with
      | mk outcome q =>
        have hBooks : q.books = p.books := by
          have := p.books_snapshot
          rwa [hShot] at this
        cases outcome with
        | error fault =>
          have hFails : r.Fails p := .inr ⟨index, fault, hIndex, by rw [hShot]⟩
          exact .inl ⟨hFails, fault, q, rfl, hBooks⟩
        | ok page =>
          have hGood : ¬ r.Fails p := by
            rintro (⟨e, hError⟩ | ⟨_, fault, _, hFault⟩)
            · simp [hIndex] at hError
            · simp [hShot] at hFault
          refine .inr ⟨hGood, ?_⟩
          dsimp only
          split
          · exact ⟨_, rfl, (q.settled_dismiss _).of_books hBooks⟩
          · exact ⟨_, rfl, (q.settled_pickAt _ _).of_books hBooks⟩

/-! ## Waiting reports -/

/-- A click that can be handled leaves what handling it leaves. -/
theorem handleSafely_of_ok {q : Picker} (h : p.handlePick r = (.ok (), q)) :
    p.handleSafely (.pick r) = q := by
  simp only [handleSafely, handle, h]

/-- A click that cannot be handled leaves a message with its fault, and the picker as it was then. -/
theorem handleSafely_of_error {q : Picker} {fault : PickerFault}
    (h : p.handlePick r = (.error fault, q)) :
    p.handleSafely (.pick r) = q.tell ("Pick handling failed: " ++ fault.message) := by
  simp only [handleSafely, handle, h]

/-- What handling a click comes to, with a failure told to the user: the books stay as they are, or
somebody waited, the click does not fail, and it is settled. -/
theorem handleSafely_pick_cases (p : Picker) (r : Report) :
    ((p.handleSafely (.pick r)).books = p.books ∧
        ((p.attached && p.session.armed) = true → r.Fails p)) ∨
      ((p.attached && p.session.armed) = true ∧ ¬ r.Fails p ∧
        Settled p (p.handleSafely (.pick r))) := by
  cases hWaits : p.attached && p.session.armed with
  | false =>
    rw [handleSafely_of_ok (handlePick_of_idle hWaits)]
    exact .inl ⟨rfl, fun h => absurd h (by simp)⟩
  | true =>
    rcases handlePick_cases hWaits with ⟨hFails, fault, q, hPick, hBooks⟩ | ⟨hGood, q, hPick, hq⟩
    · rw [handleSafely_of_error hPick]
      exact .inl ⟨hBooks, fun _ => hFails⟩
    · rw [handleSafely_of_ok hPick]
      exact .inr ⟨rfl, hGood, hq⟩

/-- Closing the panel changes only the desk, and nobody begins or ceases to wait. -/
theorem books_handleSafely_close (p : Picker) :
    (p.handleSafely .close).books = { p with desk := { p.desk with session := p.session.hide } }.books :=
  p.books_moveSession _

end Picker
end StableLocator
