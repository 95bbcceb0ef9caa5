import StableLocator.Proofs.Outcome
import StableLocator.Settings.Basic

/-!
# Fields of settings

A text for one field changes this field only, and what it makes of the field does not depend on the
settings that were there. All fields may as well be written to an object and read again on the way.

* `Field.read` — the value that a text gives a field;
* `value_set` — the fields of settings after one of them was set, from which the laws follow: other
  fields in any order, of one field the last text;
* `rereadWith_eq_set` — setting a field by way of an object;
* `update?_independent` — all this for fields by name.
-/

namespace StableLocator
namespace Settings

variable {f g : Field}

/-! ## Values of fields -/

/-- The value that a text gives a field. -/
def Field.read (f : Field) (text : String) : Json :=
  match f with
  | .dialect => .str (readDialect (.str text)).name
  | .textLimit => .int (positiveOfText text defaultTextLimit)
  | .ancestorDepth => .int (positiveOfText text defaultAncestorDepth)
  | .marker => .str (readMarker (.str text))
  | .logToFile => .bool (readSwitch text)

/-- The field that is set has the value of the text, all others have what they had. -/
theorem value_set (s : Settings) (text : String) (f g : Field) :
    (s.set text f).value g = if g = f then f.read text else s.value g := by
  cases f <;> cases g <;> simp only [set, value, Field.read, reduceCtorEq, if_true, if_false]

/-- Settings are known by their fields. -/
theorem eq_of_value_eq {s t : Settings} (h : ∀ f, s.value f = t.value f) : s = t := by
  obtain ⟨⟨dialect⟩, textLimit, ancestorDepth, marker, logToFile⟩ := s
  obtain ⟨⟨dialect'⟩, textLimit', ancestorDepth', marker', logToFile'⟩ := t
  obtain rfl : dialect = dialect' := Json.str.inj (h .dialect)
  obtain rfl : textLimit = textLimit' := Json.int.inj (h .textLimit)
  obtain rfl : ancestorDepth = ancestorDepth' := Json.int.inj (h .ancestorDepth)
  obtain rfl : marker = marker' := Json.str.inj (h .marker)
  obtain rfl : logToFile = logToFile' := Json.bool.inj (h .logToFile)
  rfl

/-- Two fields may be set in either order. -/
theorem set_comm (h : f ≠ g) (s : Settings) (v w : String) :
    (s.set v f).set w g = (s.set w g).set v f := by
  apply eq_of_value_eq
  intro k
  rw [value_set, value_set, value_set, value_set]
  by_cases hf : k = f
  · have hg : k ≠ g := fun hk => h (hf.symm.trans hk)
    rw [if_neg hg, if_pos hf, if_pos hf]
  · rw [if_neg hf, if_neg hf]

/-- Of two texts for one field the last one counts. -/
theorem set_set (s : Settings) (v w : String) (f : Field) : (s.set v f).set w f = s.set w f := by
  apply eq_of_value_eq
  intro k
  rw [value_set, value_set, value_set]
  by_cases hf : k = f
  · rw [if_pos hf, if_pos hf]
  · rw [if_neg hf, if_neg hf, if_neg hf]

/-! ## By way of an object -/

/-- What an object holds for a field that a text is meant for: the text, or whether it switches the
field on. -/
def Field.given (f : Field) (text : String) : Json :=
  match f with
  | .logToFile => .bool (readSwitch text)
  | _ => .str text

def taking (s t : Settings) : Field → Settings
  | .dialect => { s with dialect := t.dialect }
  | .textLimit => { s with textLimit := t.textLimit }
  | .ancestorDepth => { s with ancestorDepth := t.ancestorDepth }
  | .marker => { s with marker := t.marker }
  | .logToFile => { s with logToFile := t.logToFile }

/-- All fields are written to an object, one of them is replaced there, all are read again, and the one
is taken over. -/
def rereadWith (s : Settings) (text : String) (f : Field) : Except Json.InfiniteNumber Settings :=
  (ofMembers (Json.putMember f.key (f.given text) s.members)).map fun t => s.taking t f

/-- A limit is never refused for its text. -/
theorem readPositive_str (text : String) (default : Int) :
    readPositive (.str text) default = .ok (positiveOfText text default) := by
  rw [readPositive, Json.integer?, Json.toInteger, positiveOfText]
  cases Number.readInteger text with
  | ok n => rfl
  | error fault => rfl

theorem readPositive_int (n default : Int) :
    readPositive (.int n) default = .ok (positiveOr default (some n)) := rfl

/-- An object is read field by field. -/
theorem ofMembers_of_getD {members : List (String × Json)} {values : Field → Json}
    (h : ∀ f : Field, (Json.obj members).getD f.key = values f) {textLimit ancestorDepth : Int}
    (hText : readPositive (values .textLimit) defaultTextLimit = .ok textLimit)
    (hDepth : readPositive (values .ancestorDepth) defaultAncestorDepth = .ok ancestorDepth) :
    ofMembers members = .ok
      { dialect := readDialect (values .dialect)
        textLimit
        ancestorDepth
        marker := readMarker (values .marker)
        logToFile := (values .logToFile).isTruthy } := by
  rw [← h] at hText hDepth
  rw [← h, ← h, ← h]
  exact bind_eq_ok.mpr ⟨textLimit, hText, bind_eq_ok.mpr ⟨ancestorDepth, hDepth, rfl⟩⟩

/-- Each field is written under its key. -/
theorem lookup_members (s : Settings) (f : Field) : s.members.lookup f.key = some (s.value f) := by
  cases f <;> rfl

/-- A field is found by its key. -/
theorem Field.ofKey?_key (f : Field) : ofKey? f.key = some f := by
  cases f <;> decide

/-- No two fields have one name. -/
theorem Field.key_ne (h : g ≠ f) : g.key ≠ f.key := by
  intro hKey
  have hField : some g = some f := by rw [← g.ofKey?_key, hKey, f.ofKey?_key]
  exact h (Option.some.inj hField)

/-- An object of settings in which one field was replaced. -/
theorem getD_putMember (s : Settings) (f : Field) (v : Json) (g : Field) :
    (Json.obj (Json.putMember f.key v s.members)).getD g.key = if g = f then v else s.value g := by
  rw [Json.getD, Json.get?]
  split
  · rename_i hSame
    rw [hSame, Json.lookup_putMember_self, Option.getD_some]
  · rename_i hOther
    rw [Json.lookup_putMember_of_ne (Field.key_ne hOther), lookup_members, Option.getD_some]

/-- Reading all fields again fails for none of them, and comes to setting the one. -/
theorem rereadWith_eq_set (s : Settings) (text : String) (f : Field) :
    s.rereadWith text f = .ok (s.set text f) := by
  have hFields := s.getD_putMember f (f.given text)
  rw [rereadWith]
  cases f with
  | textLimit =>
    rw [ofMembers_of_getD hFields (readPositive_str text _) (readPositive_int s.ancestorDepth _)]
    simp only [Except.map, taking, set]
  | ancestorDepth =>
    rw [ofMembers_of_getD hFields (readPositive_int s.textLimit _) (readPositive_str text _)]
    simp only [Except.map, taking, set]
  | dialect | marker | logToFile =>
    rw [ofMembers_of_getD hFields (readPositive_int s.textLimit _)
      (readPositive_int s.ancestorDepth _)]
    simp only [Except.map, taking, set, Field.given, Json.isTruthy, if_true]

/-! ## Fields by name -/

/-- No field is found by any other name. -/
theorem Field.ofKey?_eq_none_iff {key : String} : ofKey? key = none ↔ ∀ f : Field, f.key ≠ key := by
  have hAll (f : Field) : f ∈ all := by cases f <;> decide
  rw [ofKey?, List.find?_eq_none]
  constructor
  · intro h f hKey
    exact h f (hAll f) (beq_iff_eq.mpr hKey)
  · intro h f _ hKey
    exact h f (beq_iff_eq.mp hKey)

theorem update?_key (s : Settings) (f : Field) (text : String) :
    s.update? f.key text = some (s.set text f) := by
  rw [update?, Field.ofKey?_key]
  rfl

/-- A text for a key is refused just if no field has this name. For a field it never fails, whatever the
settings are, also if all fields are read again on the way; the field gets a value by the text alone, and
the others keep theirs. So texts for two fields may come in either order, and of two for one field the
last one counts. -/
theorem update?_independent (s : Settings) :
    (∀ key text, s.update? key text = none ↔ ∀ f : Field, f.key ≠ key) ∧
      (∀ (f : Field) (text : String), ∃ t, s.update? f.key text = some t ∧
        s.rereadWith text f = .ok t ∧ t.value f = f.read text ∧ ∀ g ≠ f, t.value g = s.value g) ∧
      (∀ (f g : Field) (v w : String), f ≠ g →
        (s.update? f.key v).bind (·.update? g.key w) = (s.update? g.key w).bind (·.update? f.key v)) ∧
      ∀ (f : Field) (v w : String),
        (s.update? f.key v).bind (·.update? f.key w) = s.update? f.key w := by
  refine ⟨fun key text => ?_, fun f text => ?_, fun f g v w h => ?_, fun f v w => ?_⟩
  · rw [update?, Option.map_eq_none_iff, Field.ofKey?_eq_none_iff]
  · refine ⟨s.set text f, s.update?_key f text, s.rereadWith_eq_set text f, ?_, fun g hg => ?_⟩
    · rw [value_set, if_pos rfl]
    · rw [value_set, if_neg hg]
  · rw [update?_key, update?_key, Option.bind_some, Option.bind_some, update?_key, update?_key,
      set_comm h]
  · rw [update?_key, update?_key, Option.bind_some, update?_key, set_set]

/-- A sign, blanks, an underscore and digits of any script make a limit. -/
example : ({} : Settings).update? "text_limit" " +٦_4 " = some { textLimit := 64 } := by
  decide +kernel

end Settings
end StableLocator
