import StableLocator.Proofs.Settings.Normal
import StableLocator.Proofs.Text.Utf8

/-!
# Loading settings

Most of what may stand in the place of the file with the settings gives the defaults. Three kinds of
files are refused instead; every other state of the folder gives settings that make sense.

* `Settings.Refused` — the files that are refused, each with its fault;
* `integer?_eq_error_iff`, `ofMembers_eq_error_iff`, `ofText_eq_error_iff` — where faults come from;
* `load_of_holds` — what a file with a text gives;
* `load_eq_error_iff` — the refused files are all that loading fails on.
-/

namespace StableLocator
namespace Settings

/-- The file with the settings holds this text, whatever its line ends are. -/
def Holds (folder : ConfigFolder) (text : String) : Prop :=
  ∃ written, folder.config? = some (Text.encode written) ∧
    text = String.ofList (Text.unifyLineEnds written.toList)

/-- The files that are refused: their bytes are no text, a numeral in the text is too long, or a
limit is infinite. -/
inductive Refused (folder : ConfigFolder) : LoadFault → Prop
  | encoding {bytes : List UInt8} {error : Text.Utf8Error} (hFile : folder.config? = some bytes)
      (h : Text.decode bytes = .error error) : Refused folder (.encoding error)
  | longNumeral {text : String} {error : Number.IntegerError} (hText : Holds folder text)
      (h : Json.read text = .error (.longNumeral error)) : Refused folder (.longNumeral error)
  | infinite {text key : String} {members : List (String × Json)} {negative : Bool}
      (hText : Holds folder text) (hObject : Json.read text = .ok (.obj members))
      (hKey : key ∈ [Field.textLimit.key, Field.ancestorDepth.key])
      (h : members.lookup key = some (.float (.infinite negative))) : Refused folder (.infinite {})

/-! ## Where faults come from -/

/-- Only an infinite number has no integer and is an error. -/
theorem integer?_eq_error_iff {v : Json} {error : Json.InfiniteNumber} :
    v.integer? = .error error ↔ ∃ negative, v = .float (.infinite negative) := by
  rw [Json.integer?]
  constructor
  · intro h
    split at h
    · cases h
    · rename_i hInfinite
      -- Only one kind of value has an infinite integer.
      cases v with
      | float x =>
        cases x with
        | infinite negative => exact ⟨negative, rfl⟩
        | nan | finite => cases hInfinite
      | str s =>
        rw [Json.toInteger] at hInfinite
        cases hRead : Number.readInteger s with
        | error fault =>
          rw [hRead] at hInfinite
          cases hInfinite
        | ok n =>
          rw [hRead] at hInfinite
          cases hInfinite
      | null | bool | int | arr | obj => cases hInfinite
    · cases h
  · rintro ⟨negative, rfl⟩
    rfl

/-- Only an infinite number is refused as a limit. -/
theorem readPositive_eq_error_iff {v : Json} {default : Int} {error : Json.InfiniteNumber} :
    readPositive v default = .error error ↔ ∃ negative, v = .float (.infinite negative) := by
  rw [readPositive, map_eq_error, integer?_eq_error_iff]

theorem getD_eq_infinite_iff {members : List (String × Json)} {key : String} {negative : Bool} :
    (Json.obj members).getD key = .float (.infinite negative) ↔
      members.lookup key = some (.float (.infinite negative)) := by
  rw [Json.getD, Json.get?]
  cases members.lookup key with
  | none => exact ⟨nofun, nofun⟩
  | some v => simp

/-- An object is refused just when one of the limits is infinite. -/
theorem ofMembers_eq_error_iff {members : List (String × Json)} {error : Json.InfiniteNumber} :
    ofMembers members = .error error ↔
      ∃ key ∈ [Field.textLimit.key, Field.ancestorDepth.key], ∃ negative,
        members.lookup key = some (.float (.infinite negative)) := by
  have hRead (key : String) (default : Int) :
      readPositive ((Json.obj members).getD key) default = .error error ↔
        ∃ negative, members.lookup key = some (.float (.infinite negative)) := by
    rw [readPositive_eq_error_iff]
    exact exists_congr fun _ => getD_eq_infinite_iff
  constructor
  · intro h
    rcases bind_eq_error.mp h with hText | ⟨textLimit, _, h⟩
    · exact ⟨_, List.mem_cons_self, (hRead _ _).mp hText⟩
    rcases bind_eq_error.mp h with hDepth | ⟨ancestorDepth, _, h⟩
    · exact ⟨_, List.mem_cons_of_mem _ List.mem_cons_self, (hRead _ _).mp hDepth⟩
    · cases h
  · rintro ⟨key, hKey, hInfinite⟩
    -- An infinite second limit is met only if the first one can be read.
    rcases List.mem_cons.mp hKey with rfl | hKey
    · exact bind_eq_error.mpr (.inl ((hRead _ _).mpr hInfinite))
    · obtain rfl := List.mem_singleton.mp hKey
      apply bind_eq_error.mpr
      cases hText : readPositive ((Json.obj members).getD "text_limit") defaultTextLimit with
      | error fault => exact .inl rfl
      | ok textLimit =>
        exact .inr ⟨textLimit, rfl, bind_eq_error.mpr (.inl ((hRead _ _).mpr hInfinite))⟩

/-- A text is refused for a long numeral or for an infinite limit. -/
theorem ofText_eq_error_iff {text : String} {fault : LoadFault} :
    ofText text = .error fault ↔
      (∃ error, Json.read text = .error (.longNumeral error) ∧ fault = .longNumeral error) ∨
      (∃ members, Json.read text = .ok (.obj members) ∧ fault = .infinite {} ∧
        ofMembers members = .error {}) := by
  rw [ofText]
  constructor
  · intro h
    split at h
    · rename_i members hObject
      cases hMembers : ofMembers members with
      | ok found =>
        rw [hMembers] at h
        cases h
      | error error =>
        rw [hMembers] at h
        cases h
        exact .inr ⟨members, hObject, rfl, hMembers⟩
    · rename_i error hLong
      cases h
      exact .inl ⟨error, hLong, rfl⟩
    · cases h
  · rintro (⟨error, hLong, rfl⟩ | ⟨members, hObject, rfl, hMembers⟩)
    · rw [hLong]
    · simp only [hObject, hMembers]
      rfl

/-! ## Loading -/

/-- Where the file holds a text, the settings are those of the text. -/
theorem load_of_holds {folder : ConfigFolder} {text : String} (h : Holds folder text) :
    load folder = ofText text := by
  obtain ⟨written, hFile, rfl⟩ := h
  have hDecode : Text.decode (Text.encode written) = .ok written := Text.decode_eq_ok_iff.mpr rfl
  rw [load, hFile]
  simp only [hDecode]

/-- Loading fails just for the files that are refused. -/
theorem load_eq_error_iff {folder : ConfigFolder} {fault : LoadFault} :
    load folder = .error fault ↔ Refused folder fault := by
  constructor
  · intro h
    cases hFile : folder.config? with
    | none =>
      rw [load, hFile] at h
      cases h
    | some bytes =>
      cases hDecode : Text.decode bytes with
      | error error =>
        rw [load, hFile] at h
        simp only [hDecode] at h
        cases h
        exact .encoding hFile hDecode
      | ok written =>
        rw [← Text.decode_eq_ok_iff.mp hDecode] at hFile
        have hText : Holds folder _ := ⟨written, hFile, rfl⟩
        rw [load_of_holds hText] at h
        rcases ofText_eq_error_iff.mp h with ⟨error, hLong, rfl⟩ | ⟨members, hObject, rfl, hMembers⟩
        · exact .longNumeral hText hLong
        · obtain ⟨key, hKey, negative, hInfinite⟩ := ofMembers_eq_error_iff.mp hMembers
          exact .infinite hText hObject hKey hInfinite
  · intro h
    cases h with
    | encoding hFile hDecode =>
      rw [load, hFile]
      simp only [hDecode]
    | longNumeral hText hLong =>
      rw [load_of_holds hText]
      exact ofText_eq_error_iff.mpr (.inl ⟨_, hLong, rfl⟩)
    | infinite hText hObject hKey hInfinite =>
      rw [load_of_holds hText]
      refine ofText_eq_error_iff.mpr (.inr ⟨_, hObject, rfl, ?_⟩)
      exact ofMembers_eq_error_iff.mpr ⟨_, hKey, _, hInfinite⟩

/-- Loading fails just on refused files, with their faults. In every other state of the folder it
gives a known dialect, positive limits and a marker that is not blank. -/
theorem load_fails_iff (folder : ConfigFolder) :
    (∀ fault, load folder = .error fault ↔ Refused folder fault) ∧
    ((∃ s, load folder = .ok s ∧ s.dialect ∈ Dialect.known ∧ 0 < s.textLimit ∧ 0 < s.ancestorDepth ∧
      Text.trim s.marker ≠ "") ↔ ∀ fault, ¬Refused folder fault) := by
  refine ⟨fun fault => load_eq_error_iff, ?_⟩
  constructor
  · rintro ⟨s, hLoad, _⟩ fault hRefused
    rw [load_eq_error_iff.mpr hRefused] at hLoad
    cases hLoad
  · intro hAccepted
    cases hLoad : load folder with
    | error fault => exact absurd (load_eq_error_iff.mp hLoad) (hAccepted fault)
    | ok s =>
      have h := normal_load hLoad
      refine ⟨s, rfl, h.dialect, h.textLimit, h.ancestorDepth, ?_⟩
      rw [h.trimmed]
      exact h.marker

def configured (bytes : List UInt8) : ConfigFolder := .entries [(configName, .file bytes)]

/-- A single byte that begins no character, and an infinite limit, are enough to be refused. -/
theorem load_configured_fails :
    (∃ fault, load (configured [0xFF]) = .error fault) ∧
      ∃ fault, load (configured (Text.encode "\x7b\"text_limit\": 1e999\x7d")) = .error fault := by
  have fails {bytes : List UInt8} (h : (load (configured bytes)).toOption = none) :
      ∃ fault, load (configured bytes) = .error fault := by
    cases hLoad : load (configured bytes) with
    | error fault => exact ⟨fault, rfl⟩
    | ok s =>
      rw [hLoad] at h
      cases h
  exact ⟨fails (by decide +kernel), fails (by decide +kernel)⟩

end Settings
end StableLocator
