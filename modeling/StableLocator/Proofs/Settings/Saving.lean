import StableLocator.Proofs.Json.Written
import StableLocator.Proofs.Settings.Folder
import StableLocator.Proofs.Settings.Loading

/-!
# Saving settings

Settings that are reached by any changes make sense, an object with their fields is read as the same
settings, and so is the file that they are saved to.

* `load_save` — loading undoes saving;
* `Settings.Change`, `Settings.run?` — the ways settings change, one after another;
* `normal_run?` — what every run of changes keeps;
* `run?_kept` — what holds for the settings that are reached.
-/

namespace StableLocator
namespace Settings

/-! ## Loading what was saved -/

/-- The members of settings that can be written are simple values. -/
theorem simple_members {s : Settings} (h : Normal s) (hWritable : s.Writable) :
    ∀ member ∈ s.members, Json.Simple member.2 := by
  have simple {n : Int} (hPositive : 1 ≤ n) (hFew : FewDigits n) : Json.Simple (.int n) := by
    obtain ⟨k, rfl⟩ := Int.eq_ofNat_of_zero_le (Int.le_trans (by decide) hPositive)
    exact .int k hFew
  simp only [members, List.forall_mem_cons]
  exact ⟨simple h.ancestorDepth hWritable.ancestorDepth, .str _, .bool _, .str _,
    simple h.textLimit hWritable.textLimit, List.forall_mem_nil _⟩

/-- Loading undoes saving. -/
theorem load_save {s : Settings} (h : Normal s) {folder : ConfigFolder} {refusals : Refusals}
    (hSaved : (s.save folder refusals).2 = none) : load (s.save folder refusals).1 = .ok s := by
  obtain ⟨text, hWritten, hConfig⟩ := config?_save hSaved
  -- What was written has no number that is too long to be read.
  obtain ⟨hWritable, rfl⟩ := text?_eq_ok_iff.mp hWritten
  have hSimple := simple_members h hWritable
  have hNames : (s.members.map Prod.fst).Nodup := by
    simp only [members, List.map_cons, List.map_nil]
    decide
  have hRead : Json.read (Json.sheet s.members) = .ok (.obj s.members) :=
    Json.read_sheet (List.cons_ne_nil _ _) hSimple hNames
  have hPlain : '\r' ∉ (Json.sheet s.members).toList := Json.not_mem_sheet hSimple
  have hText : Holds (s.save folder refusals).1 (Json.sheet s.members) := by
    refine ⟨_, hConfig, ?_⟩
    rw [Text.unifyLineEnds_eq_self hPlain, String.ofList_toList]
  rw [load_of_holds hText, ofText, hRead]
  simp only [ofMembers_members h]
  rfl

/-! ## Changes -/

/-- What changes settings: an object that takes their place, a text for a field, or the stored
settings. -/
inductive Change
  | mapping (members : List (String × Json))
  | update (key text : String)
  | load (folder : ConfigFolder)

/-- The settings after a change, if it succeeds. -/
def change? (s : Settings) : Change → Option Settings
  | .mapping members => (ofMembers members).toOption
  | .update key text => s.update? key text
  | .load folder => (load folder).toOption

/-- The settings after changes that all succeed. -/
def run? (changes : List Change) (s : Settings) : Option Settings := changes.foldlM change? s

theorem normal_change? {s s' : Settings} (h : Normal s) {change : Change}
    (hChange : s.change? change = some s') : Normal s' := by
  cases change with
  | mapping members => exact normal_ofMembers (toOption_eq_some.mp hChange)
  | update key text => exact normal_update? h hChange
  | load folder => exact normal_load (toOption_eq_some.mp hChange)

/-- Any course of changes leaves settings that make sense. -/
theorem normal_run? {changes : List Change} {s s' : Settings} (h : Normal s)
    (hRun : run? changes s = some s') : Normal s' := by
  induction changes generalizing s with
  | nil =>
    cases hRun
    exact h
  | cons change changes ih =>
    obtain ⟨next, hChange, hRest⟩ := Option.bind_eq_some_iff.mp hRun
    exact ih (normal_change? h hChange) hRest

/-- Settings that are reached from the defaults make sense, and are the same again after the way
over an object and, whenever they can be saved, after the way over any folder. -/
theorem run?_kept {changes : List Change} {s : Settings} (hRun : run? changes {} = some s) :
    s.dialect ∈ Dialect.known ∧ 1 ≤ s.textLimit ∧ 1 ≤ s.ancestorDepth ∧
    s.marker ≠ "" ∧ Text.trim s.marker = s.marker ∧
    ofMembers s.members = .ok s ∧
    ∀ (folder : ConfigFolder) (refusals : Refusals), (s.save folder refusals).2 = none →
      load (s.save folder refusals).1 = .ok s := by
  have h := normal_run? normal_default hRun
  exact ⟨h.dialect, h.textLimit, h.ancestorDepth, h.marker, h.trimmed, ofMembers_members h,
    fun folder refusals hSaved => load_save h hSaved⟩

/-- Changes of each kind, the last one from a file in which nothing makes sense but the marker. -/
def mixedChanges : List Change :=
  [.mapping [("dialect", .str "TypeScript"), ("text_limit", .float .nan)], .update "text_limit" " 64 ",
    .load (.entries [(configName, .file (Text.encode "\x7b\"marker_attribute\": \" data-😀\"\x7d"))]),
    .update "dialect" "JS"]

def smilingSettings : Settings := { dialect := .js, marker := "data-😀" }

theorem run?_kept_mixedChanges :
    run? mixedChanges {} = some smilingSettings ∧
      load (smilingSettings.save .missing).1 = .ok smilingSettings := by
  have hRun : run? mixedChanges {} = some smilingSettings := by decide +kernel
  obtain ⟨_, _, _, _, _, _, hFile⟩ := run?_kept hRun
  have hWritable : Writable smilingSettings :=
    ⟨by unfold FewDigits; decide, by unfold FewDigits; decide⟩
  have hSaved : (smilingSettings.save .missing).2 = none := by
    rw [save_of_text (text?_of_writable hWritable) rfl]
    rfl
  exact ⟨hRun, hFile .missing {} hSaved⟩

end Settings
end StableLocator
