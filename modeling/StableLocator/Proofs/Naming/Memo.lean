import StableLocator.Naming.Memo
import StableLocator.Proofs.Naming.Agreement
import StableLocator.Proofs.Naming.References
import StableLocator.Proofs.Page.Order

/-!
# Remembering changes no answer

A memo answers as if it remembered nothing: whatever it was asked before, about elements of any pages
and about elements taken out of theirs, the next answer is that of reading the element afresh.

* `Forest`, `Forest.Member` and `Question` — trees, their elements, and what is asked about them;
* `Tells` — a table holds nothing but true values;
* `Memo.Knows` — so do all tables of a memo, which each question preserves: `Memo.knows_answer`;
* `Memo.answers_plain` — all answers to any questions.
-/

namespace StableLocator

/-! ## Trees and questions -/

/-- Trees by number: pages, and elements with nothing around them. -/
structure Forest where
  top : Nat → Spot
  whole : ∀ tree, (top tree).parent? = none

structure Forest.Member (forest : Forest) where
  tree : Nat
  spot : Spot
  within : spot ∈ forest.top tree :: (forest.top tree).descendants

namespace Forest.Member

variable {forest : Forest}

def address (e : forest.Member) : Address := ⟨e.tree, e.spot.place⟩

/-- An address belongs to one element. -/
theorem eq_of_address_eq {e e' : forest.Member} (h : e.address = e'.address) : e = e' := by
  obtain ⟨tree, s, hs⟩ := e
  obtain ⟨tree', t, ht⟩ := e'
  obtain ⟨rfl, hPlace⟩ := Address.mk.inj h
  obtain rfl := Spot.eq_of_place_eq_cons hs ht hPlace
  rfl

/-- A member belongs to a page just if its tree is one. -/
theorem document?_spot (e : forest.Member) : e.spot.document? =
    if (forest.top e.tree).isDocument then some (forest.top e.tree) else none := by
  rw [Spot.document?, Spot.outermost_of_mem (forest.whole e.tree) e.within]

/-- The lens that knows the references of its tree agrees with the one that looks for them. -/
theorem agree (e : forest.Member) (limit limit' : Int) (faults : Faults) :
    Lens.Agree ⟨limit, e.spot.document?.map References.below, faults⟩ ⟨limit', none, faults⟩
      e.spot := by
  refine ⟨rfl, ?_⟩
  unfold Lens.referencesFor
  cases e.spot.document? <;> rfl

end Forest.Member

inductive Aspect
  | role
  | name
  | label
  deriving DecidableEq, Repr

inductive Answer
  | role (role? : Option String)
  | text (text : String)
  deriving DecidableEq, Repr

structure Question (forest : Forest) extends Forest.Member forest where
  aspect : Aspect

/-- The answer of reading the element afresh. -/
def Question.plain {forest : Forest} (limit : Int) (faults : Faults) (q : Question forest) : Answer :=
  match q.aspect with
  | .role => .role q.spot.role
  | .name => .text (Lens.name { limit, faults } q.spot)
  | .label => .text (Lens.label { faults } q.spot)

namespace Memo

def answer {forest : Forest} (m : Memo) (q : Question forest) : Answer × Memo :=
  match q.aspect with
  | .role =>
    let (role?, m) := m.role q.address q.spot
    (.role role?, m)
  | .name =>
    let (name, m) := m.name q.address q.spot
    (.text name, m)
  | .label =>
    let (label, m) := m.label q.address q.spot
    (.text label, m)

def answers {forest : Forest} (m : Memo) : List (Question forest) → List Answer × Memo
  | [] => ([], m)
  | q :: rest =>
    let (first, m) := m.answer q
    let (more, m) := m.answers rest
    (first :: more, m)

end Memo

/-! ## Tables -/

/-- A table holds nothing but the values of its keys. -/
def Tells {ι κ β : Type} [BEq κ] (key : ι → κ) (value : ι → β) (table : List (κ × β)) : Prop :=
  ∀ i known, table.lookup (key i) = some known → known = value i

namespace Tells

variable {ι κ β : Type} [BEq κ] {key : ι → κ} {value : ι → β} {table : List (κ × β)}

theorem nil : Tells key value [] := nofun

/-- A value that is added under a key of its own. -/
theorem put [LawfulBEq κ] (h : Tells key value table) {i : ι} (hKey : ∀ j, key j = key i → j = i) :
    Tells key value ((key i, value i) :: table) := by
  intro j known hKnown
  rw [List.lookup_cons] at hKnown
  split at hKnown
  · rename_i hSame
    rw [hKey j (eq_of_beq hSame)]
    exact (Option.some.inj hKnown).symm
  · exact h j known hKnown

end Tells

/-! ## What a memo knows -/

namespace Memo

/-- The tables hold what reading afresh would give. -/
structure Knows (forest : Forest) (limit : Int) (faults : Faults) (m : Memo) : Prop where
  limit_eq : m.limit = limit
  faults_eq : m.faults = faults
  roles : Tells Forest.Member.address (fun e : forest.Member => e.spot.role) m.roles
  names : Tells Forest.Member.address
    (fun e : forest.Member => Lens.name { limit, faults } e.spot) m.names
  labels : Tells Forest.Member.address
    (fun e : forest.Member => Lens.label { faults } e.spot) m.labels
  references : Tells id (fun tree => References.below (forest.top tree)) m.references

variable {forest : Forest} {limit : Int} {faults : Faults} {m : Memo}

/-- A memo without answers knows nothing wrong. -/
theorem knows_new (forest : Forest) (limit : Int) (faults : Faults) :
    Knows forest limit faults { limit, faults } :=
  ⟨rfl, rfl, .nil, .nil, .nil, .nil⟩

/-- The references are those of the page, once and for all. -/
theorem knows_referencesOf (h : Knows forest limit faults m) (e : forest.Member) :
    ∃ m', m.referencesOf e.address e.spot = (e.spot.document?.map References.below, m') ∧
      Knows forest limit faults m' := by
  unfold referencesOf
  cases hDocument : e.spot.document? with
  | none => exact ⟨m, rfl, h⟩
  | some root =>
    have hRoot : root = forest.top e.tree := by
      have hTop := e.document?_spot
      rw [hDocument] at hTop
      split at hTop
      · exact Option.some.inj hTop
      · cases hTop
    subst hRoot
    cases hKnown : m.references.lookup e.address.tree with
    | some known =>
      have hBelow := h.references e.tree known hKnown
      exact ⟨m, congrArg (some · , m) hBelow, h⟩
    | none =>
      exact ⟨_, rfl, { h with references := h.references.put fun _ hSame => hSame }⟩

/-- A role is answered as from reading afresh, and noted. -/
theorem knows_role (h : Knows forest limit faults m) (e : forest.Member) :
    (m.role e.address e.spot).1 = e.spot.role ∧
      Knows forest limit faults (m.role e.address e.spot).2 := by
  unfold role
  cases hKnown : m.roles.lookup e.address with
  | some known => exact ⟨h.roles e known hKnown, h⟩
  | none =>
    exact ⟨rfl, { h with roles := h.roles.put fun _ => Forest.Member.eq_of_address_eq }⟩

theorem knows_name (h : Knows forest limit faults m) (e : forest.Member) :
    (m.name e.address e.spot).1 = Lens.name { limit, faults } e.spot ∧
      Knows forest limit faults (m.name e.address e.spot).2 := by
  unfold name
  cases hKnown : m.names.lookup e.address with
  | some known => exact ⟨h.names e known hKnown, h⟩
  | none =>
    obtain ⟨m', hAsked, hKnows⟩ := knows_referencesOf h e
    have hName : Lens.name ⟨m'.limit, e.spot.document?.map References.below, m'.faults⟩ e.spot =
        Lens.name { limit, faults } e.spot := by
      rw [hKnows.limit_eq, hKnows.faults_eq]
      exact (e.agree limit limit faults).name rfl
    rw [hAsked]
    dsimp only
    rw [hName]
    exact ⟨rfl, { hKnows with names := hKnows.names.put fun _ => Forest.Member.eq_of_address_eq }⟩

theorem knows_label (h : Knows forest limit faults m) (e : forest.Member) :
    (m.label e.address e.spot).1 = Lens.label { faults } e.spot ∧
      Knows forest limit faults (m.label e.address e.spot).2 := by
  unfold label
  cases hKnown : m.labels.lookup e.address with
  | some known => exact ⟨h.labels e known hKnown, h⟩
  | none =>
    obtain ⟨m', hAsked, hKnows⟩ := knows_referencesOf h e
    have hLabel : Lens.label ⟨m'.limit, e.spot.document?.map References.below, m'.faults⟩ e.spot =
        Lens.label { faults } e.spot := by
      rw [hKnows.limit_eq, hKnows.faults_eq]
      exact (e.agree limit defaultTextLimit faults).label
    rw [hAsked]
    dsimp only
    rw [hLabel]
    exact ⟨rfl, { hKnows with labels := hKnows.labels.put fun _ => Forest.Member.eq_of_address_eq }⟩

/-- One question is answered as by reading afresh, and the memo knows nothing false after it. -/
theorem knows_answer (h : Knows forest limit faults m) (q : Question forest) :
    (m.answer q).1 = q.plain limit faults ∧ Knows forest limit faults (m.answer q).2 := by
  unfold answer Question.plain
  cases q.aspect with
  | role =>
    obtain ⟨hRole, hKnows⟩ := knows_role h q.toMember
    exact ⟨congrArg Answer.role hRole, hKnows⟩
  | name =>
    obtain ⟨hName, hKnows⟩ := knows_name h q.toMember
    exact ⟨congrArg Answer.text hName, hKnows⟩
  | label =>
    obtain ⟨hLabel, hKnows⟩ := knows_label h q.toMember
    exact ⟨congrArg Answer.text hLabel, hKnows⟩

/-- All questions are answered as from reading afresh, one after another. -/
theorem knows_answers (h : Knows forest limit faults m) (questions : List (Question forest)) :
    (m.answers questions).1 = questions.map (Question.plain limit faults) ∧
      Knows forest limit faults (m.answers questions).2 := by
  induction questions generalizing m with
  | nil => exact ⟨rfl, h⟩
  | cons q rest ih =>
    obtain ⟨hFirst, hKnows⟩ := knows_answer h q
    obtain ⟨hMore, hAll⟩ := ih hKnows
    exact ⟨congrArg₂ List.cons hFirst hMore, hAll⟩

/-- A new memo answers all questions as by reading afresh. Whatever it was asked, it uses the
references of the page that an element belongs to, and none for an element outside a page; they lead
to the first elements, in the order of first occurrence. -/
theorem answers_plain (forest : Forest) (limit : Int) (faults : Faults)
    (questions : List (Question forest)) :
    (Memo.answers { limit, faults } questions).1 = questions.map (Question.plain limit faults) ∧
      (∀ e : forest.Member,
        ((Memo.answers { limit, faults } questions).2.referencesOf e.address e.spot).1 =
          if (forest.top e.tree).isDocument then some (References.below (forest.top e.tree))
          else none) ∧
      ∀ tree, (References.below (forest.top tree)).FirstIn (forest.top tree).descendants := by
  obtain ⟨hAnswers, hKnows⟩ := knows_answers (knows_new forest limit faults) questions
  refine ⟨hAnswers, fun e => ?_, fun tree => References.firstIn_below (forest.top tree)⟩
  obtain ⟨_, hAsked, _⟩ := knows_referencesOf hKnows e
  rw [hAsked, e.document?_spot]
  split <;> rfl

/-- A page with one id twice and an id that nothing has, and an element that was taken out of it. -/
def twoTrees : Forest where
  top
    | 0 => Page.root ⟨[.element "b" [("id", .single "a")] [.text .plain "One"],
        .element "b" [("id", .single "a")] [.text .plain "Two"],
        .element "input" [("aria-labelledby", .single "gone a")] []], "", ""⟩
    | _ => ⟨"input", [("aria-labelledby", .single "gone a")], [], .detached⟩
  whole tree := by cases tree <;> rfl

theorem answers_plain_twoTrees :
    let placed : Forest.Member twoTrees := ⟨0, _, .tail _ (.tail _ (.tail _ (.head _)))⟩
    let removed : Forest.Member twoTrees := ⟨1, _, .head _⟩
    (Memo.answers {} [⟨placed, .name⟩, ⟨removed, .name⟩, ⟨placed, .label⟩, ⟨placed, .name⟩,
      ⟨removed, .role⟩]).1 =
      [.text "One", .text "", .text "One", .text "One", .role (some "textbox")] := by
  intro placed removed
  exact (answers_plain twoTrees defaultTextLimit [] _).1.trans (by decide +kernel)

end Memo
end StableLocator
