import StableLocator.Proofs.Outcome
import StableLocator.Proofs.Text.Blank
import StableLocator.Settings.Store

/-!
# Settings in normal form

Wherever settings come from, each field makes sense, and an object with these fields is read as the
same settings.

* `Settings.Normal` — what makes sense for each field;
* `normal_ofMembers`, `normal_update?`, `normal_load` — the three ways to settings;
* `ofMembers_members` — normal settings are kept by the way over an object.
-/

namespace StableLocator
namespace Settings

/-- Each field makes sense: the dialect is a known one, the limits are positive, and the marker is
the name of an attribute without white space at its ends. -/
structure Normal (s : Settings) : Prop where
  dialect : s.dialect ∈ Dialect.known
  textLimit : 1 ≤ s.textLimit
  ancestorDepth : 1 ≤ s.ancestorDepth
  marker : s.marker ≠ ""
  trimmed : Text.trim s.marker = s.marker

/-! ## Single values -/

/-- Whatever names a dialect, a known one is read. -/
theorem readDialect_mem_known (v : Json) : readDialect v ∈ Dialect.known := by
  rw [readDialect]
  split
  · rename_i hKnown
    exact List.contains_iff_mem.mp hKnown
  · exact List.mem_cons_self

/-- A known dialect is read by its name. -/
theorem readDialect_name {d : Dialect} (h : d ∈ Dialect.known) : readDialect (.str d.name) = d := by
  have hAll : ∀ d ∈ Dialect.known, readDialect (.str d.name) = d := by decide
  exact hAll d h

/-- A positive default is replaced by positive numbers only. -/
theorem one_le_positiveOr {default : Int} (h : 1 ≤ default) (n : Option Int) :
    1 ≤ positiveOr default n := by
  cases n with
  | none => exact h
  | some n =>
    rw [positiveOr]
    split
    · assumption
    · exact h

theorem one_le_readPositive {default : Int} (h : 1 ≤ default) {v : Json} {n : Int}
    (hRead : readPositive v default = .ok n) : 1 ≤ n := by
  obtain ⟨found, _, rfl⟩ := map_eq_ok.mp hRead
  exact one_le_positiveOr h found

theorem positiveOr_eq_self {n : Int} (h : 1 ≤ n) (default : Int) : positiveOr default (some n) = n :=
  if_pos h

/-- A marker that is read has a name without white space at its ends. -/
theorem readMarker_normal (v : Json) :
    readMarker v ≠ "" ∧ Text.trim (readMarker v) = readMarker v := by
  rw [readMarker]
  split
  · exact ⟨by decide, by decide⟩
  · rename_i hSome
    exact ⟨hSome, Text.trim_trim _⟩

/-- Such a name is read as it is. -/
theorem readMarker_eq_self {name : String} (hSome : name ≠ "") (hTrim : Text.trim name = name) :
    readMarker (.str name) = name := by
  have hShown : (Json.str name).shown = name := by
    rw [Json.shown, Json.isTruthy, if_pos (by simpa using hSome), Json.display]
  rw [readMarker, hShown, hTrim, if_neg hSome]

/-! ## Three ways to settings -/

theorem normal_default : Normal {} where
  dialect := List.mem_cons_self
  textLimit := by decide
  ancestorDepth := by decide
  marker := by decide
  trimmed := by decide

theorem one_le_defaults : 1 ≤ defaultTextLimit ∧ 1 ≤ defaultAncestorDepth := by
  decide

/-- Settings from an object make sense. -/
theorem normal_ofMembers {members : List (String × Json)} {s : Settings}
    (h : ofMembers members = .ok s) : Normal s := by
  obtain ⟨textLimit, hText, h⟩ := bind_eq_ok.mp h
  obtain ⟨ancestorDepth, hDepth, h⟩ := bind_eq_ok.mp h
  have hDialect := readDialect_mem_known ((Json.obj members).getD "dialect")
  have hMarker := readMarker_normal ((Json.obj members).getD "marker_attribute")
  rw [← Except.ok.inj h]
  constructor
  · dsimp only
    exact hDialect
  · exact one_le_readPositive one_le_defaults.1 hText
  · exact one_le_readPositive one_le_defaults.2 hDepth
  · dsimp only
    exact hMarker.1
  · dsimp only
    exact hMarker.2

/-- Changing one field leaves the others as they make sense. -/
theorem normal_set {s : Settings} (h : Normal s) (text : String) (field : Field) :
    Normal (s.set text field) := by
  obtain ⟨hDialect, hText, hDepth, hMarker, hTrimmed⟩ := h
  cases field with
  | dialect =>
    have hRead := readDialect_mem_known (.str text)
    rw [set]
    exact ⟨by dsimp only; exact hRead, hText, hDepth, hMarker, hTrimmed⟩
  | textLimit =>
    rw [set]
    exact ⟨hDialect, one_le_positiveOr one_le_defaults.1 _, hDepth, hMarker, hTrimmed⟩
  | ancestorDepth =>
    rw [set]
    exact ⟨hDialect, hText, one_le_positiveOr one_le_defaults.2 _, hMarker, hTrimmed⟩
  | marker =>
    obtain ⟨hSome, hTrim⟩ := readMarker_normal (.str text)
    rw [set]
    exact ⟨hDialect, hText, hDepth, by dsimp only; exact hSome, by dsimp only; exact hTrim⟩
  | logToFile =>
    rw [set]
    exact ⟨hDialect, hText, hDepth, hMarker, hTrimmed⟩

/-- An update leaves settings that make sense. -/
theorem normal_update? {s s' : Settings} (h : Normal s) {key text : String}
    (hUpdate : s.update? key text = some s') : Normal s' := by
  obtain ⟨field, _, rfl⟩ := Option.map_eq_some_iff.mp hUpdate
  exact normal_set h text field

theorem normal_ofText {text : String} {s : Settings} (h : ofText text = .ok s) : Normal s := by
  rw [ofText] at h
  split at h
  · rename_i members _
    cases hMembers : ofMembers members with
    | error fault =>
      rw [hMembers] at h
      cases h
    | ok found =>
      rw [hMembers] at h
      cases h
      exact normal_ofMembers hMembers
  · cases h
  · cases h
    exact normal_default

theorem normal_load {folder : ConfigFolder} {s : Settings} (h : load folder = .ok s) : Normal s := by
  rw [load] at h
  split at h
  · cases h
    exact normal_default
  · split at h
    · cases h
    · exact normal_ofText h

/-! ## The way over an object -/

/-- Normal settings are read from the object that holds them. -/
theorem ofMembers_members {s : Settings} (h : Normal s) : ofMembers s.members = .ok s := by
  have hText : readPositive (.int s.textLimit) defaultTextLimit = .ok s.textLimit := by
    rw [readPositive]
    exact congrArg Except.ok (positiveOr_eq_self h.textLimit _)
  have hDepth : readPositive (.int s.ancestorDepth) defaultAncestorDepth = .ok s.ancestorDepth := by
    rw [readPositive]
    exact congrArg Except.ok (positiveOr_eq_self h.ancestorDepth _)
  calc ofMembers s.members
      -- Each field is looked up by its name.
      = (do
          let textLimit ← readPositive (.int s.textLimit) defaultTextLimit
          let ancestorDepth ← readPositive (.int s.ancestorDepth) defaultAncestorDepth
          pure {
            dialect := readDialect (.str s.dialect.name)
            textLimit
            ancestorDepth
            marker := readMarker (.str s.marker)
            logToFile := s.logToFile }) := rfl
    _ = .ok s := by
        rw [hText, hDepth, readDialect_name h.dialect, readMarker_eq_self h.marker h.trimmed]
        rfl

end Settings
end StableLocator
