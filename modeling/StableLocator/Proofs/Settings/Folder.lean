import StableLocator.Proofs.Settings.Writable
import StableLocator.Proofs.Table

/-!
# The folder after saving

Saving writes a file of a new name and moves it to the place of the old settings. Whatever the new name
is, only the file with the settings is another one afterwards; if the file cannot be moved, it is taken
away again and the folder is what it was. The one step that leaves more behind is writing itself: where
that is refused halfway, the file that was begun stays.

* `ConfigFolder.move?_put` — writing under a new name and moving;
* `ConfigFolder.freshName_not_mem` — the name for the new file is new;
* `ConfigFolder.Replaced`, `ConfigFolder.replaced_replaceConfig` — all that can become of the folder;
* `save_old_or_new` — whatever is refused, the settings are the old ones or the new ones;
* `save_undone`, `save_stopped` — what is left behind where a step is refused, and where writing is;
* `save_whole` — saving puts the new text in place or leaves everything alone.
-/

namespace StableLocator
namespace ConfigFolder

open Settings (Refusals SaveFault)

variable {name other : String} {entry : Entry} {es : List (String × Entry)} {refusals : Refusals}

/-! ## Entries -/

def items : ConfigFolder → List (String × Entry)
  | entries es => es
  | _ => []

theorem entry?_eq_lookup (folder : ConfigFolder) (name : String) :
    folder.entry? name = folder.items.lookup name := by
  cases folder <;> rfl

theorem names?_getD (folder : ConfigFolder) : folder.names?.getD [] = folder.items.map Prod.fst := by
  cases folder <;> rfl

theorem lookup_put (name : String) (entry : Entry) (es : List (String × Entry)) :
    (put name entry es).lookup name = some entry := by
  have hOthers : (without name es).lookup name = none := by
    rw [List.lookup_eq_none_iff]
    intro other hOther
    have hName : (other.1 != name) = true := (List.mem_filter.mp hOther).2
    rw [bne_comm] at hName
    simpa using hName
  rw [put, List.lookup_append, hOthers, Option.none_or, List.lookup_cons_self]

/-- A new entry that is taken away again leaves no trace. -/
theorem without_put (h : name ∉ es.map Prod.fst) : without name (put name entry es) = es := by
  have hOld : without name es = es := filter_ne_eq_self h
  have hNew : without name [(name, entry)] = [] := by simp [without]
  have hParts : without name (es ++ [(name, entry)]) = without name es ++ without name [(name, entry)] :=
    List.filter_append ..
  rw [put, hOld, hParts, hOld, hNew, List.append_nil]

/-- Putting in one entry does not touch any other. -/
theorem lookup_put_of_ne (h : other ≠ name) : (put name entry es).lookup other = es.lookup other := by
  have hLast : [(name, entry)].lookup other = none := by
    rw [List.lookup_cons, beq_false_of_ne h]
    rfl
  rw [put, List.lookup_append, without, lookup_filter_ne h, hLast, Option.or_none]

/-- A file that is written under a new name and then moved takes the place of the file there, and no other
entry is touched; a folder is in its way. -/
theorem move?_put {fresh : String} (hFresh : fresh ∉ es.map Prod.fst) (hName : name ≠ fresh) :
    move? fresh name (put fresh entry es) =
      if es.lookup name = some .folder then none else some (put name entry es) := by
  rw [move?, lookup_put, lookup_put_of_ne hName, without_put hFresh]
  split
  · rename_i hFolder
    rw [hFolder, if_pos rfl]
  · rename_i hEntry hOther
    obtain rfl := Option.some.inj hEntry
    rw [if_neg hOther]
  · rename_i hNone
    cases hNone

theorem le_foldr_max {n : Nat} {numbers : List Nat} (h : n ∈ numbers) :
    n ≤ numbers.foldr Nat.max 0 := by
  induction numbers with
  | nil => cases h
  | cons m numbers ih =>
    rw [List.foldr_cons]
    rcases List.mem_cons.mp h with rfl | h
    · exact Nat.le_max_left _ _
    · exact Nat.le_trans (ih h) (Nat.le_max_right _ _)

/-- The name for a new file is longer than that of any entry. -/
theorem freshName_not_mem (es : List (String × Entry)) : freshName es ∉ es.map Prod.fst := by
  intro hMem
  obtain ⟨e, he, hName⟩ := List.mem_map.mp hMem
  have hLongest := le_foldr_max (List.mem_map_of_mem (f := fun e => e.1.length) he)
  have hLength : (es.map fun e => e.1.length).foldr Nat.max 0 < (freshName es).length := by
    simp only [freshName, String.length_append, String.length_ofList, List.length_replicate]
    have hDot : ".".length = 1 := rfl
    omega
  rw [← hName] at hLength
  omega

/-- A new file never has the name of the settings. -/
theorem configName_ne_freshName (es : List (String × Entry)) : configName ≠ freshName es := by
  intro hName
  have hFirst := congrArg (fun s => s.toList.head?) hName
  simp [freshName, configName] at hFirst

/-! ## The file with the settings -/

/-- How new settings are put into a folder: they are there in the end, or all is as it was, or the new file
stays beside them because writing or taking it away again was refused. -/
inductive Replaced (refusals : Refusals) (bytes : List UInt8) (es : List (String × Entry)) :
    List (String × Entry) × Option SaveFault → Prop
  | saved (hFile : es.lookup configName ≠ some .folder) :
      Replaced refusals bytes es (put configName (.file bytes) es, none)
  | undone {fault : SaveFault} (hAnswer : fault.isAnswered = true) :
      Replaced refusals bytes es (es, some fault)
  | left {fault : SaveFault} {name : String} {begun : List UInt8} (hName : name ∉ es.map Prod.fst)
      (hOther : configName ≠ name) (hCause : refusals.write ≠ none ∨ refusals.remove ≠ none) :
      Replaced refusals bytes es (put name (.file begun) es, some fault)

/-- After an answered fault the new file is gone, or could not be removed. -/
theorem replaced_discard {bytes : List UInt8} {fault : SaveFault} (hAnswer : fault.isAnswered = true) :
    Replaced refusals bytes es
      (discard refusals (freshName es) fault (put (freshName es) (.file bytes) es)) := by
  unfold discard
  split
  · rename_i hRemove
    exact .left (freshName_not_mem es) (configName_ne_freshName es) (.inr (by simp [hRemove]))
  · rw [without_put (freshName_not_mem es)]
    exact .undone hAnswer

/-- Whatever is refused, the settings are replaced, or all is as it was, or the new file stays. -/
theorem replaced_replaceConfig (refusals : Refusals) (bytes : List UInt8)
    (es : List (String × Entry)) : Replaced refusals bytes es (replaceConfig refusals bytes es) := by
  have hFresh := freshName_not_mem es
  have hOther := configName_ne_freshName es
  unfold replaceConfig
  dsimp only
  split
  · exact .undone rfl
  · rename_i hWrite
    exact .left hFresh hOther (.inl (by simp [hWrite]))
  · exact replaced_discard rfl
  · rw [move?_put hFresh hOther]
    by_cases hFile : es.lookup configName = some .folder
    · rw [if_pos hFile]
      exact replaced_discard rfl
    · rw [if_neg hFile]
      exact .saved hFile

end ConfigFolder

namespace Settings

variable {s : Settings} {folder : ConfigFolder} {refusals : Refusals}

/-! ## Saving -/

/-- Settings with a text are saved by replacing the file in the folder. -/
theorem save_of_text {text : String} {es : List (String × Entry)} (hText : s.text? = .ok text)
    (h : folder.ensure refusals = .ok es) :
    s.save folder refusals =
      (.entries (ConfigFolder.replaceConfig refusals (Text.encode text) es).1,
        (ConfigFolder.replaceConfig refusals (Text.encode text) es).2) := by
  simp only [save, h, hText]

/-- A folder that is there or was made has the entries that it had. -/
theorem ensure_eq_ok {es : List (String × Entry)} (h : folder.ensure refusals = .ok es) :
    es = folder.items ∧ folder ≠ .obstructed := by
  unfold ConfigFolder.ensure at h
  split at h
  · cases h
  · split at h
    · cases h
    · cases h
      exact ⟨rfl, nofun⟩
  · cases h
    exact ⟨rfl, nofun⟩

/-- All that can become of the folder: nothing, as it cannot be made, or it is made and then nothing more,
as the settings cannot be written, or new settings are put into it. -/
inductive Saved (s : Settings) (folder : ConfigFolder) (refusals : Refusals) :
    ConfigFolder × Option SaveFault → Prop
  | unmade {fault : SaveFault} (h : folder.ensure refusals = .error fault) :
      Saved s folder refusals (folder, some fault)
  | unwritable {error : Number.LongInteger} (h : folder ≠ .obstructed)
      (hText : s.text? = .error error) :
      Saved s folder refusals (.entries folder.items, some (.longInteger error))
  | replaced {text : String} {outcome : List (String × Entry) × Option SaveFault}
      (h : folder ≠ .obstructed) (hText : s.text? = .ok text)
      (hOutcome : ConfigFolder.Replaced refusals (Text.encode text) folder.items outcome) :
      Saved s folder refusals (.entries outcome.1, outcome.2)

/-- Saving ends in one of the ways that are listed, whatever is refused. -/
theorem saved_save (s : Settings) (folder : ConfigFolder) (refusals : Refusals) :
    Saved s folder refusals (s.save folder refusals) := by
  cases hEnsure : folder.ensure refusals with
  | error fault =>
    simp only [save, hEnsure]
    exact .unmade hEnsure
  | ok es =>
    obtain ⟨rfl, hThere⟩ := ensure_eq_ok hEnsure
    cases hText : s.text? with
    | error error =>
      simp only [save, hEnsure, hText]
      exact .unwritable hThere hText
    | ok text =>
      rw [save_of_text hText hEnsure]
      exact .replaced hThere hText (ConfigFolder.replaced_replaceConfig ..)

theorem config?_put {bytes : List UInt8} (es : List (String × Entry)) :
    (ConfigFolder.entries (ConfigFolder.put configName (.file bytes) es)).config? = some bytes := by
  rw [ConfigFolder.config?, ConfigFolder.entry?, ConfigFolder.lookup_put]

/-- Saving that ends well leaves the text of the settings in their file. -/
theorem config?_save (h : (s.save folder refusals).2 = none) :
    ∃ text, s.text? = .ok text ∧
      (s.save folder refusals).1.config? = some (Text.encode text) := by
  have hSaved := saved_save s folder refusals
  generalize s.save folder refusals = outcome at h hSaved
  cases hSaved with
  | unmade | unwritable => cases h
  | replaced hThere hText hOutcome =>
    cases hOutcome with
    | saved hFile => exact ⟨_, hText, config?_put _⟩
    | undone | left => cases h

/-- A folder is known by its entries. -/
theorem entry?_items (folder : ConfigFolder) (name : String) :
    ConfigFolder.entry? (.entries folder.items) name = folder.entry? name :=
  (ConfigFolder.entry?_eq_lookup folder name).symm

/-- The settings depend on the entry with their name alone. -/
theorem config?_congr {f g : ConfigFolder} (h : f.entry? configName = g.entry? configName) :
    f.config? = g.config? := by
  rw [ConfigFolder.config?, ConfigFolder.config?, h]

/-- Whatever is refused, the file with the settings has the new text or is what it was, and any other
entry of the folder is what it was. -/
theorem save_old_or_new (s : Settings) (folder : ConfigFolder) (refusals : Refusals) :
    (((s.save folder refusals).2 = none ∧ ∃ text, s.text? = .ok text ∧
        (s.save folder refusals).1.config? = some (Text.encode text)) ∨
      ((s.save folder refusals).2 ≠ none ∧
        (s.save folder refusals).1.config? = folder.config?)) ∧
    ∀ name ∈ folder.names?.getD [], name ≠ configName →
      ConfigFolder.entry? (s.save folder refusals).1 name = folder.entry? name := by
  have hSaved := saved_save s folder refusals
  rw [ConfigFolder.names?_getD]
  generalize s.save folder refusals = outcome at hSaved
  have hSame : (ConfigFolder.entries folder.items).config? = folder.config? :=
    config?_congr (entry?_items ..)
  cases hSaved with
  | unmade => exact ⟨.inr ⟨nofun, rfl⟩, fun _ _ _ => rfl⟩
  | unwritable => exact ⟨.inr ⟨nofun, hSame⟩, fun _ _ _ => entry?_items ..⟩
  | replaced hThere hText hOutcome =>
    cases hOutcome with
    | saved hFile =>
      refine ⟨.inl ⟨rfl, _, hText, config?_put _⟩, fun name _ hName => ?_⟩
      rw [← entry?_items folder]
      exact ConfigFolder.lookup_put_of_ne hName
    | undone => exact ⟨.inr ⟨nofun, hSame⟩, fun _ _ _ => entry?_items ..⟩
    | left hNew hOther =>
      refine ⟨.inr ⟨nofun, config?_congr ?_⟩, fun name hName _ => ?_⟩
      · rw [← entry?_items folder]
        exact ConfigFolder.lookup_put_of_ne hOther
      · rw [← entry?_items folder]
        exact ConfigFolder.lookup_put_of_ne (ne_of_mem_of_not_mem hName hNew)

/-- Where writing is refused after some bytes, the file that was begun stays in the folder. -/
theorem save_stopped (h : s.Writable) {count : Nat} {reason : String}
    (hThere : folder.ensure refusals = .ok folder.items) (hMake : refusals.makeFile = none)
    (hWrite : refusals.write = some (count, reason)) :
    ∃ text name, s.text? = .ok text ∧ name ∉ folder.names?.getD [] ∧
      s.save folder refusals =
        (.entries (ConfigFolder.put name (.file ((Text.encode text).take count)) folder.items),
          some (.fileRefused reason)) := by
  refine ⟨_, ConfigFolder.freshName folder.items, text?_of_writable h, ?_, ?_⟩
  · rw [ConfigFolder.names?_getD]
    exact ConfigFolder.freshName_not_mem _
  · rw [save_of_text (text?_of_writable h) hThere]
    simp only [ConfigFolder.replaceConfig, hMake, hWrite]

end Settings
end StableLocator
