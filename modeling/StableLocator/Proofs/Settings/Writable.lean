import StableLocator.Proofs.Number.Digits
import StableLocator.Proofs.Number.Magnitude
import StableLocator.Proofs.Settings.Normal

/-!
# Settings that can be written

A number with too many digits cannot be written. None comes into settings from outside: neither a text nor
a file can hold one, and the numbers that JSON may write with an exponent have few digits.

* `Json.IsShort` — values whose integers can be written; `Json.isShort_readMembers` — all members of an
  object that is read are such values;
* `Settings.Writable` — settings that can be written, `Settings.text?_eq_ok_iff`;
* `Settings.writable_load`, `Settings.writable_set` — settings from a file and from a text for a field.
-/

namespace StableLocator

namespace Number

/-- A floating point number without its fraction is not too long. -/
theorem isLong_whole {negative : Bool} {mantissa : Nat} {exponent : Int}
    (h : (Binary64.finite negative mantissa exponent).Bounded) :
    isLong (withSign negative (Binary64.whole mantissa exponent)) = false := by
  rw [isLong_eq_false_iff, natAbs_withSign]
  calc Binary64.whole mantissa exponent < 2 ^ Binary64.wholeBits := Binary64.whole_lt h.1 h.2
    _ ≤ 10 ^ Binary64.wholeBits := Nat.pow_le_pow_left (by decide) _
    _ ≤ 10 ^ digitLimit := Nat.pow_le_pow_right (by decide) (by decide)

end Number

namespace Json

/-- The integer of a value, if it has one, can be written. -/
def IsShort (v : Json) : Prop := ∀ n, v.toInteger = .ok n → Number.isLong n = false

/-- A text is read as an integer only if it has few enough digits. -/
theorem isShort_str (s : String) : (str s).IsShort := by
  intro n h
  rw [toInteger] at h
  cases hRead : Number.readInteger s with
  | error e =>
    rw [hRead] at h
    cases h
  | ok found =>
    rw [hRead] at h
    cases h
    exact Number.isLong_of_readInteger hRead

theorem isShort_bool (b : Bool) : (bool b).IsShort := by
  intro n h
  cases h
  cases b <;> exact Number.isLong_of_lt (by decide)

/-- A bounded number has few digits before its point. -/
theorem isShort_float {x : Number.Binary64} (h : x.Bounded) : (float x).IsShort := by
  intro n hInteger
  cases x with
  | nan | infinite => cases hInteger
  | finite negative mantissa exponent =>
    cases hInteger
    exact Number.isLong_whole h

theorem takeDigits_lt (cs : List Char) :
    ∀ d ∈ (takeDigits cs).1.map fun c => c.toNat - 48, d < 10 := by
  intro d hd
  obtain ⟨c, hc, rfl⟩ := List.mem_map.mp hd
  rw [takeDigits, List.span_eq_takeWhile_dropWhile] at hc
  have hCode := Text.isDigit_iff.mp (List.mem_takeWhile_imp hc)
  omega

/-- Too many digits are refused, and a number with an exponent is bounded. -/
theorem isShort_readMagnitude {negative : Bool} {cs rest : List Char} {v : Json}
    (h : readMagnitude negative cs = .ok (v, rest)) : v.IsShort := by
  unfold readMagnitude at h
  split at h
  rename_i whole after hWhole
  have hDigits : ∀ d ∈ whole.map fun c => c.toNat - 48, d < 10 := by
    split at hWhole
    · cases hWhole
      decide
    · have hLt := takeDigits_lt cs
      rwa [hWhole] at hLt
  dsimp only at h
  split_ifs at h with hNone hPlain hLong
  · cases h
    intro n hInteger
    cases hInteger
    exact Number.isLong_ofDigits hDigits (by simpa using hLong)
  · cases h
    exact isShort_float (Number.Binary64.bounded_ofDecimal ..)

/-- A value without parts is short, as longer numerals are refused. -/
theorem isShort_readScalar {cs rest : List Char} {v : Json} (h : readScalar cs = .ok (v, rest)) :
    v.IsShort := by
  unfold readScalar at h
  split at h
  · obtain ⟨_, _, hText⟩ := map_eq_ok.mp h
    cases hText
    exact isShort_str _
  · split at h
    · cases h
      exact nofun
    · cases h
      exact isShort_bool true
    · cases h
      exact isShort_bool false
    · cases h
      exact nofun
    · cases h
      exact nofun
    · cases h
      exact nofun
    · split at h
      · exact isShort_readMagnitude h
      · exact isShort_readMagnitude h

/-- A list or an object has no integer, so nothing need be known of what is in it. -/
theorem isShort_readValue {fuel : Nat} {cs rest : List Char} {v : Json}
    (h : readValue fuel cs = .ok (v, rest)) : v.IsShort := by
  unfold readValue at h
  split at h
  · cases h
  · split at h
    · cases h
      exact nofun
    · obtain ⟨_, _, hItems⟩ := map_eq_ok.mp h
      cases hItems
      exact nofun
  · split at h
    · cases h
      exact nofun
    · obtain ⟨_, _, hMembers⟩ := map_eq_ok.mp h
      cases hMembers
      exact nofun
  · exact isShort_readScalar h

theorem forall_mem_putMember {p : Json → Prop} (key : String) {v : Json} (hValue : p v)
    {members : List (String × Json)} (h : ∀ m ∈ members, p m.2) :
    ∀ m ∈ putMember key v members, p m.2 := by
  induction members with
  | nil => simpa [putMember] using hValue
  | cons first members ih =>
    obtain ⟨hFirst, hRest⟩ := List.forall_mem_cons.mp h
    rw [putMember]
    split
    · exact List.forall_mem_cons.mpr ⟨hValue, hRest⟩
    · exact List.forall_mem_cons.mpr ⟨hFirst, ih hRest⟩

/-- Members that are read are short, if those before them are. -/
theorem isShort_readMembers {fuel : Nat} {cs rest : List Char} {known members : List (String × Json)}
    (hKnown : ∀ m ∈ known, m.2.IsShort) (h : readMembers fuel cs known = .ok (members, rest)) :
    ∀ m ∈ members, m.2.IsShort := by
  induction fuel generalizing cs known with
  | zero => simp [readMembers] at h
  | succ fuel ih =>
    unfold readMembers at h
    split at h
    · rename_i k cs hFuel
      cases hFuel
      split at h
      · cases h
      · split at h
        · split at h
          · cases h
          · rename_i hValue
            have hPut (key : String) := forall_mem_putMember key (isShort_readValue hValue) hKnown
            split at h
            · cases h
              exact hPut _
            · exact ih (hPut _) h
            · cases h
        · cases h
    · cases h

theorem readMagnitude_ne_obj {negative : Bool} {cs rest : List Char} {members : List (String × Json)} :
    readMagnitude negative cs ≠ .ok (.obj members, rest) := by
  intro h
  unfold readMagnitude at h
  split at h
  dsimp only at h
  split_ifs at h
  · cases h
  · cases h

/-- A value without parts is no object. -/
theorem readScalar_ne_obj {cs rest : List Char} {members : List (String × Json)} :
    readScalar cs ≠ .ok (.obj members, rest) := by
  intro h
  unfold readScalar at h
  split at h
  · obtain ⟨_, _, hText⟩ := map_eq_ok.mp h
    cases hText
  · split at h
    iterate 6 cases h
    split at h
    · exact readMagnitude_ne_obj h
    · exact readMagnitude_ne_obj h

/-- Either an object has no members, or its members are read as such. -/
theorem isShort_readValue_obj {fuel : Nat} {cs rest : List Char} {members : List (String × Json)}
    (h : readValue fuel cs = .ok (.obj members, rest)) : ∀ m ∈ members, m.2.IsShort := by
  unfold readValue at h
  split at h
  · cases h
  · split at h
    · cases h
    · obtain ⟨_, _, hItems⟩ := map_eq_ok.mp h
      cases hItems
  · split at h
    · cases h
      exact List.forall_mem_nil _
    · obtain ⟨_, hMembers, hPair⟩ := map_eq_ok.mp h
      cases hPair
      exact isShort_readMembers (List.forall_mem_nil _) hMembers
  · exact absurd h readScalar_ne_obj

/-- No integer of an object that is read is too long to be written. -/
theorem isShort_of_read {text : String} {members : List (String × Json)}
    (h : read text = .ok (.obj members)) : ∀ m ∈ members, m.2.IsShort := by
  obtain ⟨⟨v, rest⟩, hValue, hEnd⟩ := bind_eq_ok.mp h
  dsimp only at hEnd
  split at hEnd
  · cases hEnd
    exact isShort_readValue_obj hValue
  · cases hEnd

/-- A member of such an object is short, and so is a missing one. -/
theorem isShort_getD {members : List (String × Json)} (h : ∀ m ∈ members, m.2.IsShort)
    (key : String) : ((obj members).getD key).IsShort := by
  rw [getD, get?]
  cases hLookup : members.lookup key with
  | none => exact nofun
  | some v =>
    obtain ⟨_, _, rfl, _⟩ := List.lookup_eq_some_iff.mp hLookup
    exact h (key, v) (by simp)

end Json

namespace Settings

/-- The number has no more decimal digits than a numeral may have. -/
def FewDigits (n : Int) : Prop := (Nat.toDigits 10 n.natAbs).length ≤ Number.digitLimit

/-- Few digits are as many as can be written. -/
theorem fewDigits_iff {n : Int} : FewDigits n ↔ Number.isLong n = false := by
  rw [FewDigits, Number.isLong, decide_eq_false_iff_not, Nat.not_lt]

/-- The limits have few enough digits to be written. -/
structure Writable (s : Settings) : Prop where
  textLimit : FewDigits s.textLimit
  ancestorDepth : FewDigits s.ancestorDepth

/-- Settings have a text just if they can be written. -/
theorem text?_eq_ok_iff {s : Settings} {text : String} :
    s.text? = .ok text ↔ s.Writable ∧ text = Json.sheet s.members := by
  have hLong : Json.anyLongMember s.members = false ↔ s.Writable := by
    simp only [members, Json.anyLongMember, Json.hasLongInteger, Bool.or_false, Bool.false_or,
      Bool.or_eq_false_iff, ← fewDigits_iff]
    exact ⟨fun h => ⟨h.2, h.1⟩, fun h => ⟨h.ancestorDepth, h.textLimit⟩⟩
  rw [text?, Json.sheet?, ← hLong]
  cases Json.anyLongMember s.members with
  | true => simp
  | false => simp [eq_comm]

theorem text?_of_writable {s : Settings} (h : s.Writable) :
    s.text? = .ok (Json.sheet s.members) :=
  text?_eq_ok_iff.mpr ⟨h, rfl⟩

/-! ## Settings from outside -/

theorem fewDigits_defaults : FewDigits defaultTextLimit ∧ FewDigits defaultAncestorDepth := by
  simp only [fewDigits_iff]
  exact ⟨Number.isLong_of_lt (by decide), Number.isLong_of_lt (by decide)⟩

theorem writable_default : Writable {} := ⟨fewDigits_defaults.1, fewDigits_defaults.2⟩

theorem fewDigits_positiveOr {default : Int} (h : FewDigits default) {n : Option Int}
    (hSome : ∀ k ∈ n, FewDigits k) : FewDigits (positiveOr default n) := by
  cases n with
  | none => exact h
  | some k =>
    rw [positiveOr]
    split
    · exact hSome k rfl
    · exact h

/-- A limit that is read can be written. -/
theorem fewDigits_readPositive {default n : Int} (h : FewDigits default) {v : Json}
    (hShort : v.IsShort) (hRead : readPositive v default = .ok n) : FewDigits n := by
  obtain ⟨found, hInteger, rfl⟩ := map_eq_ok.mp hRead
  refine fewDigits_positiveOr h fun k hk => fewDigits_iff.mpr (hShort k ?_)
  obtain rfl := Option.mem_def.mp hk
  rw [Json.integer?] at hInteger
  split at hInteger
  · rename_i hFound
    cases hInteger
    exact hFound
  · cases hInteger
  · cases hInteger

/-- Settings from an object that is read can be written. -/
theorem writable_ofMembers {members : List (String × Json)} {s : Settings}
    (hShort : ∀ m ∈ members, m.2.IsShort) (h : ofMembers members = .ok s) : s.Writable := by
  obtain ⟨textLimit, hText, h⟩ := bind_eq_ok.mp h
  obtain ⟨ancestorDepth, hDepth, h⟩ := bind_eq_ok.mp h
  rw [← Except.ok.inj h]
  constructor
  · exact fewDigits_readPositive fewDigits_defaults.1 (Json.isShort_getD hShort _) hText
  · exact fewDigits_readPositive fewDigits_defaults.2 (Json.isShort_getD hShort _) hDepth

/-- Settings that a file gives can be written. -/
theorem writable_load {folder : ConfigFolder} {s : Settings} (h : load folder = .ok s) :
    s.Writable := by
  rw [load] at h
  split at h
  · cases h
    exact writable_default
  · split at h
    · cases h
    · rw [ofText] at h
      split at h
      · rename_i members hRead
        cases hMembers : ofMembers members with
        | error fault =>
          rw [hMembers] at h
          cases h
        | ok found =>
          rw [hMembers] at h
          cases h
          exact writable_ofMembers (Json.isShort_of_read hRead) hMembers
      · cases h
      · cases h
        exact writable_default

theorem fewDigits_positiveOfText {default : Int} (h : FewDigits default) (text : String) :
    FewDigits (positiveOfText text default) := by
  refine fewDigits_positiveOr h fun k hk => fewDigits_iff.mpr ?_
  exact Number.isLong_of_readInteger (toOption_eq_some.mp hk)

/-- A text for a field leaves settings such that they can be written. -/
theorem writable_set {s : Settings} (h : s.Writable) (text : String) (field : Field) :
    (s.set text field).Writable := by
  cases field with
  | textLimit => exact ⟨fewDigits_positiveOfText fewDigits_defaults.1 text, h.ancestorDepth⟩
  | ancestorDepth => exact ⟨h.textLimit, fewDigits_positiveOfText fewDigits_defaults.2 text⟩
  | dialect | marker | logToFile =>
    rw [set]
    exact ⟨h.textLimit, h.ancestorDepth⟩

end Settings
end StableLocator
