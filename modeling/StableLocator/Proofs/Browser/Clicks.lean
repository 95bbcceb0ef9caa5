import StableLocator.Proofs.Browser.Course

/-!
# What a click leaves behind

The page's own script ceases to wait as soon as it reports a click. The picker follows it when the click
is handled well, and also when it is of no use; a click that fails leaves the picker waiting for a page
that does not wait any more.

* `Picker.armed_handleSafely_pick_iff` — when somebody still waits after a click;
* `Picker.armed_process_strayClick` — two clicks that fail and leave the picker waiting;
* `Picker.idle_process` — a queue with a click in it leaves nobody waiting, unless a click fails.
-/

namespace StableLocator
namespace Picker

variable {p : Picker}

/-! ## One click -/

/-- Somebody waits after a click exactly if somebody waited before it and it was not handled, for want
of a page or because it fails. -/
theorem armed_handleSafely_pick_iff (p : Picker) (r : Report) :
    (p.handleSafely (.pick r)).session.armed = true ↔
      p.session.armed = true ∧ (p.attached = false ∨ r.Fails p) := by
  rcases p.handleSafely_pick_cases r with
    ⟨hBooks, hFails⟩ | ⟨hWaits, hGood, desk, hIdle, new, _, hBooks⟩
  · rw [session_of_books hBooks]
    refine ⟨fun hArmed => ⟨hArmed, ?_⟩, And.left⟩
    cases hAttached : p.attached with
    | false => exact .inl rfl
    | true => exact .inr (hFails (by rw [hAttached, hArmed]; rfl))
  · have hSession : (p.handleSafely (.pick r)).session = desk.session :=
      (session_of_books hBooks :)
    rw [Bool.and_eq_true] at hWaits
    rw [hSession, hIdle, hWaits.1]
    simp [hGood]

def saveStage : Stage :=
  { snapshot := .obj
      [("html", .str "<button data-locator-index=\"0\" data-testid=\"save\">Save</button>")] }

def oneClick (r : Report) : List Command := [.arm none, .event (.report r)]

/-- Two clicks after which somebody waits in vain: one with an infinite index, and one on a page of
which no snapshot can be taken. -/
theorem armed_process_strayClick :
    let far : Report := [("index", .float (.infinite false)), ("tag", .str "button")]
    let near : Report := [("index", .int 0), ("tag", .str "button")]
    let p := (({ stage := saveStage } : Picker).attach).run (oneClick far)
    let q := (({ stage := { saveStage with failing := [.snapshot] } } : Picker).attach).run
      (oneClick near)
    (p.attached = true ∧ p.pending.length = 1 ∧ p.session.armed = true ∧
        p.process.2.session.armed = true) ∧
      q.attached = true ∧ q.pending.length = 1 ∧ q.session.armed = true ∧
        q.process.2.session.armed = true := by
  decide +kernel

/-! ## Queues -/

/-- Whatever is handled, the page behaves as it did. -/
theorem stage_handleSafely (p : Picker) (event : Pending) :
    (p.handleSafely event).stage = p.stage := by
  cases event with
  | pick r =>
    rcases p.handleSafely_pick_cases r with ⟨hBooks, _⟩ | ⟨_, _, desk, _, new, _, hBooks⟩
    · exact stage_of_books hBooks
    · exact (stage_of_books hBooks :)
  | close => exact (stage_of_books p.books_handleSafely_close :)

/-- Nobody begins to wait while reports are handled. -/
theorem idle_process_of_idle (h : p.session.armed = false) :
    p.process.2.session.armed = false := by
  obtain ⟨_, _, new, _, _, hPaid⟩ := p.balanced_process
  rw [h] at hPaid
  cases hArmed : p.process.2.session.armed with
  | false => rfl
  | true =>
    rw [hArmed, Bool.toNat_true, Bool.toNat_false] at hPaid
    omega

/-- A queue with a click in it leaves nobody waiting, provided no click in it can fail on this page. -/
theorem idle_process (hAttached : p.attached = true) {clicked : Report}
    (hClick : .pick clicked ∈ p.pending)
    (hGood : ∀ r, .pick r ∈ p.pending → ∀ q : Picker, q.stage = p.stage → ¬ r.Fails q) :
    p.process.2.session.armed = false := by
  induction hQueue : p.pending generalizing p with
  | nil =>
    rw [hQueue] at hClick
    cases hClick
  | cons event rest ih =>
    rw [hQueue] at hClick hGood
    rw [process_cons hQueue]
    rcases List.mem_cons.mp hClick with hFirst | hLater
    · -- The click is handled now, and nobody waits from then on.
      subst hFirst
      refine idle_process_of_idle (Bool.eq_false_iff.mpr fun hArmed => ?_)
      obtain ⟨_, hDetached | hFails⟩ := (armed_handleSafely_pick_iff _ _).mp hArmed
      · exact absurd (hDetached : p.attached = false) (by simp [hAttached])
      · exact hGood clicked (List.mem_cons_self ..) _ rfl hFails
    · -- Another report is handled first, and nothing changes for the rest of the queue.
      have hRest := pending_handleSafely { p with pending := rest } event
      have hKept := (balanced_handleSafely { p with pending := rest } event).attached
      refine ih (hKept.trans hAttached) ?_ (fun r hr q hStage => ?_) hRest
      · rw [hRest]
        exact hLater
      · rw [hRest] at hr
        exact hGood r (List.mem_cons_of_mem _ hr) q (hStage.trans (stage_handleSafely _ _))

end Picker
end StableLocator
