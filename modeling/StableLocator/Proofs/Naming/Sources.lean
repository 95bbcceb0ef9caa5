import StableLocator.Proofs.Naming.Agreement
import StableLocator.Proofs.Outcome
import StableLocator.Proofs.Text.Blank

/-!
# Where names come from

The name of an element is what the first of five sources offers that has anything to offer. Every source
collapses white space, so that names and labels are well spaced whichever source they are from. Only
visible texts and titles have to be short.

* `NameSource`, `Lens.offer`, `Lens.serves` — the sources, what they offer, and which of them may name an
  element;
* `collapse_label` and `collapse_offer` — all that they offer is collapsed;
* `eq_firstOffer` and `name_eq_offer` — the name is from the first source that serves;
* `name_wellSpaced` — what follows for names and labels.
-/

namespace StableLocator

/-- What can give an element its name. -/
inductive NameSource
  | label
  | value
  | alternative
  | text
  | title
  deriving DecidableEq, Repr

namespace NameSource

def all : List NameSource := [label, value, alternative, text, title]

def isLimited : NameSource → Bool
  | text | title => true
  | _ => false

end NameSource

namespace Lens

variable {lens : Lens} {s : Spot} {text : String}

def offer (lens : Lens) (s : Spot) : NameSource → String
  | .label => lens.label s
  | .value => if s.isButtonLike || s.isTextLike then Text.collapse s.formValue else ""
  | .alternative => if s.isImageLike then s.attrText "alt" else ""
  | .text => s.visibleText
  | .title => s.attrText "title"

/-- A source may name an element: it offers something, and nothing too long. -/
def serves (lens : Lens) (s : Spot) (source : NameSource) : Bool :=
  lens.offer s source != "" && (!source.isLimited || lens.fits (lens.offer s source))

/-! ## Labels -/

/-- Visible text that is read without a fault is the visible text. -/
theorem visibleText_eq_ok (h : lens.visibleText s = .ok text) : text = s.visibleText := by
  rw [visibleText, Faults.guard] at h
  split at h
  · cases h
  · exact (Except.ok.inj h).symm

/-- Visible text is already collapsed. -/
theorem collapse_visibleText (s : Spot) : Text.collapse s.visibleText = s.visibleText := by
  rw [Spot.visibleText]
  split
  · exact Text.collapse_collapse _
  · rfl

/-- Any text that is read is already collapsed. -/
theorem collapse_anyText (h : lens.anyText s = .ok text) : Text.collapse text = text := by
  obtain ⟨shown, hShown, hText⟩ := bind_eq_ok.mp h
  obtain rfl := visibleText_eq_ok hShown
  obtain rfl := Except.ok.inj hText
  split
  · exact Text.collapse_collapse _
  · exact collapse_visibleText s

/-- The texts of listed elements are collapsed, and none of them is empty. -/
theorem collapse_textsOf {references : References} {ids texts : List String}
    (h : lens.textsOf references ids = .ok texts) : ∀ t ∈ texts, t ≠ "" ∧ Text.collapse t = t := by
  induction ids generalizing texts with
  | nil =>
    obtain rfl := Except.ok.inj h
    exact List.forall_mem_nil _
  | cons id ids ih =>
    rw [textsOf] at h
    split at h
    · exact ih h
    · obtain ⟨text, hText, h⟩ := bind_eq_ok.mp h
      obtain ⟨more, hMore, h⟩ := bind_eq_ok.mp h
      obtain rfl := Except.ok.inj h
      split
      · exact ih hMore
      · rename_i hSome
        exact List.forall_mem_cons.mpr ⟨⟨hSome, collapse_anyText hText⟩, ih hMore⟩

theorem collapse_referredLabel {references : References} {listed id : String}
    (h : lens.referredLabel references listed id = .ok text) : Text.collapse text = text := by
  unfold referredLabel at h
  extract_lets choose at h
  -- Whatever the listed texts are, they are joined, or the label element is read.
  have hChoose {texts : List String} (hTexts : ∀ t ∈ texts, t ≠ "" ∧ Text.collapse t = t)
      (h : choose texts = .ok text) : Text.collapse text = text := by
    dsimp only [choose] at h
    split at h
    · obtain rfl := Except.ok.inj h
      exact Text.collapse_intercalate hTexts
    · split at h
      · obtain rfl := Except.ok.inj h
        rfl
      · exact collapse_anyText h
  split at h
  · exact hChoose (List.forall_mem_nil _) h
  · obtain ⟨texts, hTexts, h⟩ := bind_eq_ok.mp h
    exact hChoose (collapse_textsOf hTexts) h

/-- A label is already collapsed. -/
theorem collapse_label? (h : lens.label? s = .ok text) : Text.collapse text = text := by
  unfold label? at h
  dsimp only at h
  split at h
  · obtain rfl := Except.ok.inj h
    exact Text.collapse_collapse _
  · split at h
    · obtain rfl := Except.ok.inj h
      rfl
    · split at h
      · obtain rfl := Except.ok.inj h
        rfl
      · exact collapse_referredLabel h

theorem label_eq_of_ok (h : lens.label? s = .ok text) : lens.label s = text := by
  rw [label, h]
  rfl

theorem collapse_label (lens : Lens) (s : Spot) : Text.collapse (lens.label s) = lens.label s := by
  cases h : lens.label? s with
  | error fault =>
    rw [label, h]
    rfl
  | ok text => rw [label_eq_of_ok h, collapse_label? h]

/-! ## Names -/

/-- Whatever the source is, what it offers is collapsed. -/
theorem collapse_offer (lens : Lens) (s : Spot) (source : NameSource) :
    Text.collapse (lens.offer s source) = lens.offer s source := by
  cases source with
  | label => exact lens.collapse_label s
  | value | alternative =>
    rw [offer]
    split
    · exact Text.collapse_collapse _
    · rfl
  | text => exact collapse_visibleText s
  | title => exact Text.collapse_collapse _

theorem name_eq_of_ok (h : lens.name? s = .ok text) : lens.name s = text := by
  rw [name, h]
  rfl

/-- What the first of some sources offers that serves. -/
def firstOffer (lens : Lens) (s : Spot) (sources : List NameSource) : String :=
  ((sources.find? (lens.serves s)).map (lens.offer s)).getD ""

/-- The first source that serves wins. -/
theorem firstOffer_cons (lens : Lens) (s : Spot) (source : NameSource) (rest : List NameSource) :
    lens.firstOffer s (source :: rest) =
      if lens.serves s source then lens.offer s source else lens.firstOffer s rest := by
  rw [firstOffer, List.find?_cons]
  cases lens.serves s source <;> rfl

/-- A source without a limit serves if it offers any text. -/
theorem serves_unlimited {source : NameSource} (h : source.isLimited = false) :
    lens.serves s source = true ↔ lens.offer s source ≠ "" := by
  simp [serves, h]

/-- A source with a limit serves if it offers some text that fits. -/
theorem serves_limited {source : NameSource} (h : source.isLimited = true) :
    lens.serves s source = true ↔
      lens.offer s source ≠ "" ∧ lens.fits (lens.offer s source) = true := by
  simp [serves, h]

/-- A text, if a test says so, else what the rest gives. -/
theorem eq_ite_of_ok {c : Prop} [Decidable c] {first rest : String} {after : Except String String}
    (h : (if c then pure first else after) = .ok text) (hRest : after = .ok text → text = rest) :
    text = if c then first else rest := by
  split at h
  · rw [if_pos ‹_›]
    exact (Except.ok.inj h).symm
  · rw [if_neg ‹_›]
    exact hRest h

/-- Unless reading fails, the name is what the first source offers that serves. -/
theorem eq_firstOffer (h : lens.name? s = .ok text) : text = lens.firstOffer s NameSource.all := by
  obtain ⟨label, hLabel, h⟩ := bind_eq_ok.mp h
  obtain rfl := label_eq_of_ok hLabel
  -- The tests are those of the sources, one after another.
  rw [NameSource.all, firstOffer_cons, if_congr (serves_unlimited rfl) rfl rfl, firstOffer_cons,
    if_congr (serves_unlimited rfl) rfl rfl, firstOffer_cons, if_congr (serves_unlimited rfl) rfl rfl,
    firstOffer_cons, if_congr (serves_limited rfl) rfl rfl, firstOffer_cons,
    if_congr (serves_limited rfl) rfl rfl]
  refine eq_ite_of_ok h fun h => eq_ite_of_ok h fun h => eq_ite_of_ok h fun h => ?_
  obtain ⟨shown, hShown, h⟩ := bind_eq_ok.mp h
  obtain rfl := visibleText_eq_ok hShown
  exact eq_ite_of_ok h fun h => eq_ite_of_ok h fun h => (Except.ok.inj h).symm

/-- The name is empty, or some source offers it, before which none serves. -/
theorem name_eq_offer (lens : Lens) (s : Spot) :
    lens.name s = "" ∨
      ∃ source, NameSource.all.find? (lens.serves s) = some source ∧ lens.name s = lens.offer s source := by
  cases h : lens.name? s with
  | error fault =>
    left
    rw [name, h]
    rfl
  | ok text =>
    obtain rfl := name_eq_of_ok h
    have hName := eq_firstOffer h
    rw [firstOffer] at hName
    cases hFound : NameSource.all.find? (lens.serves s) with
    | none =>
      rw [hFound] at hName
      exact .inl hName
    | some source =>
      rw [hFound] at hName
      exact .inr ⟨source, rfl, hName⟩

/-- A name is already collapsed. -/
theorem collapse_name (lens : Lens) (s : Spot) : Text.collapse (lens.name s) = lens.name s := by
  rcases lens.name_eq_offer s with hNone | ⟨source, _, hName⟩
  · rw [hNone]
    rfl
  · rw [hName]
    exact lens.collapse_offer s source

/-- An element with a label is named by it. -/
theorem name_of_label (h : lens.label s ≠ "") : lens.name s = lens.label s := by
  cases hLabel : lens.label? s with
  | error fault =>
    rw [label, hLabel] at h
    exact absurd rfl h
  | ok text =>
    rw [label_eq_of_ok hLabel] at h ⊢
    apply name_eq_of_ok
    rw [name?, hLabel]
    exact if_pos h

/-- The limit has no part in labels. -/
theorem label_of_limit (lens : Lens) (limit : Int) (s : Spot) :
    Lens.label { lens with limit } s = lens.label s :=
  Agree.label ⟨rfl, rfl⟩

/-- A long name comes from a source without a limit. -/
theorem isLimited_of_long {source : NameSource} (h : lens.serves s source = true)
    (hLong : lens.limit ≤ (lens.offer s source).length) : source.isLimited = false := by
  cases hLimited : source.isLimited with
  | false => rfl
  | true =>
    obtain ⟨_, hFits⟩ := (serves_limited hLimited).mp h
    rw [fits, decide_eq_true_iff] at hFits
    omega

/-- Names and labels are well spaced, for every element, in its page or out of it, and whatever the
limit is, the references are, and goes wrong. A label is the name for every limit. Any name is what the
first source offers that serves, and a name that reaches the limit is a label, a value or an alternative
text. -/
theorem name_wellSpaced (lens : Lens) (s : Spot) :
    Text.WellSpaced (lens.name s).toList ∧ Text.collapse (lens.name s) = lens.name s ∧
      Text.WellSpaced (lens.label s).toList ∧ Text.collapse (lens.label s) = lens.label s ∧
      (lens.label s ≠ "" → ∀ limit, Lens.name { lens with limit } s = lens.label s) ∧
      (lens.name s ≠ "" → ∃ source,
        NameSource.all.find? (lens.serves s) = some source ∧ lens.name s = lens.offer s source ∧
        (lens.limit ≤ (lens.name s).length → source ∈ [.label, .value, .alternative])) := by
  have hName := lens.collapse_name s
  have hLabel := lens.collapse_label s
  refine ⟨Text.collapse_eq_self_iff.mp hName, hName, Text.collapse_eq_self_iff.mp hLabel, hLabel, ?_, ?_⟩
  · intro hSome limit
    rw [name_of_label (by rwa [label_of_limit]), label_of_limit]
  · intro hSome
    obtain ⟨source, hFirst, hOffer⟩ := (lens.name_eq_offer s).resolve_left hSome
    refine ⟨source, hFirst, hOffer, fun hLong => ?_⟩
    have hUnlimited := isLimited_of_long (List.find?_some hFirst) (hOffer ▸ hLong)
    cases source with
    | label | value | alternative => decide
    | text | title => cases hUnlimited

/-- A button outside any page, with a label that is longer than the limit below. -/
def namedButton : Spot where
  tag := "button"
  attrs := [("aria-label", .single "\tSave  all\n"), ("title", .single "Keep")]
  nodes := [.text .plain "Go"]
  context := .detached

theorem name_wellSpaced_namedButton :
    let lens : Lens := { limit := 4 }
    lens.name namedButton = "Save all" ∧ Text.WellSpaced "Save all".toList ∧
      (∀ limit, Lens.name { lens with limit } namedButton = "Save all") ∧
      ∃ source ∈ [NameSource.label, .value, .alternative],
        lens.offer namedButton source = "Save all" := by
  have hLabel : Lens.label { limit := 4 } namedButton = "Save all" := by decide +kernel
  have hName : Lens.name { limit := 4 } namedButton = "Save all" := by decide +kernel
  obtain ⟨hSpaced, _, _, _, hLimits, hSource⟩ := name_wellSpaced { limit := 4 } namedButton
  rw [hName] at hSpaced hSource
  rw [hLabel] at hLimits
  obtain ⟨source, _, hOffer, hUnlimited⟩ := hSource (by decide)
  exact ⟨hName, hSpaced, hLimits (by decide), source, hUnlimited (by decide +kernel), hOffer.symm⟩

end Lens
end StableLocator
