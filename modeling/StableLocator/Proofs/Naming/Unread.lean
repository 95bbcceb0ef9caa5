import StableLocator.Locator.Ladder
import StableLocator.Proofs.Page.Without

/-!
# Attributes that nobody reads

What shows of a page, the roles and the names of its elements depend on some attributes only. Any other
attribute may come and go without a trace in them.

* `Unread` — a name that is none of those that are read, in any case of its letters;
* `Spot.isVisible_without`, `Spot.visibleText_without`, `Spot.formValue_without` — what shows;
* `Spot.role_without`, `Spot.classTokens_without`, `Spot.testId?_without` — what single elements say;
* `References.below_without`, `Lens.name?_without`, `Lens.label?_without` — names and labels.
-/

namespace StableLocator

/-- The names of the attributes that matter to locators, apart from those that a selector brings. -/
def readNames : List String :=
  ["", "class", "id", "for", "role", "type", "style", "hidden", "value", "selected", "checked",
    "disabled", "required", "readonly", "contenteditable", "href", "alt", "title", "placeholder", "aria-label", "aria-labelledby",
    Visibility.stampName, Spot.valueStamp] ++ testIdNames

/-- No attribute of this name is read. -/
def Unread (name : String) : Prop := Text.lowerAscii name ∉ readNames

instance (name : String) : Decidable (Unread name) :=
  inferInstanceAs (Decidable (Text.lowerAscii name ∉ readNames))

variable {name : String}

/-- The names that are read have no capitals. -/
theorem lowerAscii_of_mem_readNames {other : String} (h : other ∈ readNames) :
    Text.lowerAscii other = other := by
  have hAll : ∀ n ∈ readNames, Text.lowerAscii n = n := by decide
  exact hAll other h

/-- An unread name is none of those that are read. -/
theorem Unread.ne (hName : Unread name) {other : String} (h : other ∈ readNames) :
    other ≠ name := by
  rintro rfl
  rw [Unread, lowerAscii_of_mem_readNames h] at hName
  exact hName h

/-! ## Single attributes -/

namespace Attributes

/-- Without an unread attribute, the text of one that is read stays. -/
theorem text?_erase (hName : Unread name) {other : String} (h : other ∈ readNames)
    (attrs : Attributes) : (attrs.erase name).text? other = attrs.text? other := by
  rw [text?, lookup_erase (hName.ne h), text?]

/-- Without an unread attribute, one that is read is there or not as before. -/
theorem has_erase_of_mem (hName : Unread name) {other : String} (h : other ∈ readNames)
    (attrs : Attributes) : (attrs.erase name).has other = attrs.has other := by
  rw [has, lookup_erase (hName.ne h), has]

end Attributes

namespace Spot

/-- The text of an attribute that is read stays. -/
theorem attr?_without (hName : Unread name) {other : String} (h : other ∈ readNames) (s : Spot) :
    (s.without name).attr? other = s.attr? other :=
  Attributes.text?_erase hName h s.attrs

theorem attrText_without (hName : Unread name) {other : String} (h : other ∈ readNames)
    (s : Spot) : (s.without name).attrText other = s.attrText other := by
  rw [attrText, attr?_without hName h, attrText]

theorem classTokens_without (hName : Unread name) (s : Spot) :
    (s.without name).classTokens = s.classTokens := by
  rw [classTokens, attrs_without, Attributes.lookup_erase (hName.ne (by decide)), classTokens]

theorem testId?_without (hName : Unread name) (s : Spot) :
    (s.without name).testId? = s.testId? := by
  rw [testId?, testId?]
  refine congrArg (fun values => (firstPresent values).map Prod.snd)
    (List.map_congr_left fun other hOther => ?_)
  rw [attr?_without hName (List.mem_append_right _ hOther)]

end Spot

/-! ## What shows -/

/-- Whether an element hides itself is told by attributes that are read. -/
theorem Visibility.hidesSelf_erase (hName : Unread name) (tag : String) (attrs : Attributes) :
    Visibility.hidesSelf tag (attrs.erase name) = Visibility.hidesSelf tag attrs := by
  simp (disch := decide) only [Visibility.hidesSelf, Visibility.isHiddenInput,
    Attributes.text?_erase hName, Attributes.has_erase_of_mem hName]

/-- The text that shows in a row, element by element. -/
theorem Visibility.shownInRow_without (hName : Unread name) (nodes : List Node) :
    Visibility.shownInRow (nodes.map (Node.without name)) = Visibility.shownInRow nodes := by
  induction nodes using forest_induction with
  | nil => rfl
  | text kind content rest ih =>
    rw [List.map_cons, Node.without_text, shownInRow, shownInRow, ih]
  | element t a children rest ihChildren ihRest =>
    rw [List.map_cons, Node.without_element, shownInRow, shownInRow, shownIn, shownIn, ihChildren,
      ihRest, hidesSelf_erase hName]

theorem rowText_without (name : String) (kinds : List TextKind) (nodes : List Node) :
    rowText kinds (nodes.map (Node.without name)) = rowText kinds nodes := by
  induction nodes using forest_induction with
  | nil => rfl
  | text kind content rest ih => rw [List.map_cons, Node.without_text, rowText, rowText, ih]
  | element t a children rest ihChildren ihRest =>
    rw [List.map_cons, Node.without_element, rowText, rowText, Node.allText, Node.allText,
      ihChildren, ihRest]

namespace Spot

theorem allText_without (name : String) (s : Spot) : (s.without name).allText = s.allText :=
  rowText_without name (ownKinds s.tag) s.nodes

theorem hidesSelf_without (hName : Unread name) (s : Spot) :
    (s.without name).hidesSelf = s.hidesSelf :=
  Visibility.hidesSelf_erase hName s.tag s.attrs

/-- What is visible stays visible, and what is hidden stays hidden. -/
theorem isVisible_without (hName : Unread name) (s : Spot) :
    (s.without name).isVisible = s.isVisible := by
  simp (disch := decide) only [isVisible, isDocument_without, tag_without, attr?_without hName,
    hidesSelf_without hName, ancestors_without, List.all_map, Function.comp_def]

theorem visibleText_without (hName : Unread name) (s : Spot) :
    (s.without name).visibleText = s.visibleText := by
  rw [visibleText, isVisible_without hName, nodes_without, Visibility.shownInRow_without hName,
    visibleText]

theorem selectedValue_without (hName : Unread name) (options : List Spot) :
    selectedValue (options.map (without name)) = selectedValue options := by
  have hMarked : ((fun s : Spot => s.attrs.has "selected") ∘ without name) =
      fun s : Spot => s.attrs.has "selected" :=
    funext fun s => Attributes.has_erase_of_mem hName (by decide) s.attrs
  have hOption : ((options.map (without name)).find? (fun s => s.attrs.has "selected") <|>
      (options.map (without name)).head?) =
        ((options.find? fun s => s.attrs.has "selected") <|> options.head?).map (without name) := by
    rw [List.find?_map, hMarked, List.head?_map]
    cases options.find? fun s => s.attrs.has "selected" <;> rfl
  rw [selectedValue, hOption, selectedValue]
  cases (options.find? fun s => s.attrs.has "selected") <|> options.head? with
  | none => rfl
  | some option =>
    simp only [Option.map_some, attr?_without hName (by decide : "value" ∈ readNames),
      allText_without]

theorem formValue_without (hName : Unread name) (s : Spot) :
    (s.without name).formValue = s.formValue := by
  have hOptions : ((s.without name).descendants.filter fun o => o.tag == "option") =
      (s.descendants.filter fun o => o.tag == "option").map (without name) := by
    rw [descendants_without, List.filter_map]
    rfl
  rw [formValue, formValue, hOptions, selectedValue_without hName, attr?_without hName (by decide),
    attr?_without hName (by decide), allText_without, name_without]

/-! ## Roles -/

theorem inputType_without (hName : Unread name) (s : Spot) :
    (s.without name).inputType = s.inputType := by
  rw [inputType, attrText_without hName (by decide), inputType]

theorem role_without (hName : Unread name) (s : Spot) : (s.without name).role = s.role := by
  rw [role, role, name_without, inputType_without hName, attr?_without hName (by decide)]

theorem isImageLike_without (hName : Unread name) (s : Spot) :
    (s.without name).isImageLike = s.isImageLike := by
  rw [isImageLike, name_without, inputType_without hName, isImageLike]

theorem isButtonLike_without (hName : Unread name) (s : Spot) :
    (s.without name).isButtonLike = s.isButtonLike := by
  rw [isButtonLike, name_without, inputType_without hName, isButtonLike]

theorem isTextLike_without (hName : Unread name) (s : Spot) :
    (s.without name).isTextLike = s.isTextLike := by
  rw [isTextLike, name_without, inputType_without hName, isTextLike]

end Spot

/-! ## References -/

def Targets.without (name : String) (targets : Targets) : Targets :=
  targets.map fun target => (target.1, target.2.without name)

/-- Targets lead to the same elements, without the attribute. -/
theorem Targets.lookup_without (name : String) (targets : Targets) (key : String) :
    (targets.without name).lookup key = (targets.lookup key).map (Spot.without name) := by
  induction targets with
  | nil => rfl
  | cons target targets ih =>
    obtain ⟨k, s⟩ := target
    rw [Targets.without, List.map_cons, List.lookup_cons, List.lookup_cons]
    cases key == k with
    | true => rfl
    | false => exact ih

theorem Targets.add_without (name : String) (targets : Targets) (key : String) (s : Spot) :
    (targets.without name).add key (s.without name) = (targets.add key s).without name := by
  rw [add, lookup_without, Option.isSome_map, add]
  split
  · rfl
  · rw [Targets.without, Targets.without, List.map_append]
    rfl

namespace References

def without (name : String) (r : References) : References := ⟨r.ids.without name, r.labels.without name⟩

/-- References grow alike with the attribute and without it. -/
theorem add_without (hName : Unread name) (r : References) (s : Spot) :
    (r.without name).add (s.without name) = (r.add s).without name := by
  have hIds : ((r.without name).add (s.without name)).ids = (r.add s).ids.without name := by
    simp only [add, Spot.attr?_without hName (by decide : "id" ∈ readNames)]
    cases s.attr? "id" with
    | none => rfl
    | some id => exact Targets.add_without name r.ids id s
  have hLabels : ((r.without name).add (s.without name)).labels =
      (r.add s).labels.without name := by
    simp only [add, Spot.attr?_without hName (by decide : "for" ∈ readNames)]
    cases s.attr? "for" with
    | none => rfl
    | some target =>
      by_cases hTag : s.name = "label"
      · have hTag' : (s.without name).name = "label" := hTag
        simp only [if_pos hTag, if_pos hTag']
        exact Targets.add_without name r.labels target s
      · have hTag' : (s.without name).name ≠ "label" := hTag
        simp only [if_neg hTag, if_neg hTag']
        rfl
  exact (congrArg₂ References.mk hIds hLabels :)

/-- The first element with an id is the same one on the page without an attribute. -/
theorem below_without (hName : Unread name) (root : Spot) :
    below (root.without name) = (below root).without name := by
  have hFold (spots : List Spot) (r : References) :
      (spots.map (Spot.without name)).foldl add (r.without name) =
        (spots.foldl add r).without name := by
    induction spots generalizing r with
    | nil => rfl
    | cons s spots ih => rw [List.map_cons, List.foldl_cons, add_without hName, ih, List.foldl_cons]
  rw [below, Spot.descendants_without]
  exact hFold root.descendants ⟨[], []⟩

end References

/-! ## Names -/

namespace Lens

def without (name : String) (lens : Lens) : Lens :=
  { lens with references := lens.references.map (References.without name) }

/-- The lens for the page without the attribute is the lens without it. -/
theorem ofPage_without (hName : Unread name) (page : Page) (limit : Int) (faults : Faults) :
    ofPage (page.without name) limit faults = (ofPage page limit faults).without name := by
  rw [ofPage, Page.root_without, References.below_without hName]
  rfl

theorem fits_without (name : String) (lens : Lens) (text : String) :
    (lens.without name).fits text = lens.fits text := rfl

theorem referencesFor_without (hName : Unread name) (lens : Lens) (s : Spot) :
    (lens.without name).referencesFor (s.without name) =
      (lens.referencesFor s).map (References.without name) := by
  rw [referencesFor, referencesFor, Spot.document?_without, without]
  cases lens.references with
  | some references => rfl
  | none =>
    cases s.document? with
    | none => rfl
    | some page => exact congrArg some (References.below_without hName page)

theorem visibleText_without (hName : Unread name) (lens : Lens) (s : Spot) :
    (lens.without name).visibleText (s.without name) = lens.visibleText s := by
  rw [visibleText, Spot.visibleText_without hName]
  rfl

theorem anyText_without (hName : Unread name) (lens : Lens) (s : Spot) :
    (lens.without name).anyText (s.without name) = lens.anyText s := by
  rw [anyText, visibleText_without hName, Spot.allText_without]
  rfl

theorem textsOf_without (hName : Unread name) (lens : Lens) (references : References)
    (ids : List String) :
    (lens.without name).textsOf (references.without name) ids = lens.textsOf references ids := by
  induction ids with
  | nil => rfl
  | cons id ids ih =>
    have hLookup : (references.without name).ids.lookup id =
        (references.ids.lookup id).map (Spot.without name) :=
      Targets.lookup_without name references.ids id
    rw [textsOf, textsOf, hLookup, ih]
    cases references.ids.lookup id with
    | none => rfl
    | some s => simp only [Option.map_some, anyText_without hName]

theorem referredLabel_without (hName : Unread name) (lens : Lens) (references : References)
    (listed id : String) :
    (lens.without name).referredLabel (references.without name) listed id =
      lens.referredLabel references listed id := by
  have hLookup : (references.without name).labels.lookup id =
      (references.labels.lookup id).map (Spot.without name) :=
    Targets.lookup_without name references.labels id
  rw [referredLabel, referredLabel, textsOf_without hName, hLookup]
  cases references.labels.lookup id with
  | none => rfl
  | some label =>
    by_cases hId : id = ""
    · simp only [if_pos hId]
    · simp only [if_neg hId, Option.map_some, anyText_without hName]

/-- Labels stay, faults included. -/
theorem label?_without (hName : Unread name) (lens : Lens) (s : Spot) :
    (lens.without name).label? (s.without name) = lens.label? s := by
  rw [label?, label?, referencesFor_without hName]
  simp (disch := decide) only [Spot.attrText_without hName]
  cases lens.referencesFor s with
  | none => rfl
  | some references => simp only [Option.map_some, referredLabel_without hName]

/-- Names stay, faults included. -/
theorem name?_without (hName : Unread name) (lens : Lens) (s : Spot) :
    (lens.without name).name? (s.without name) = lens.name? s := by
  rw [name?, name?, label?_without hName, Spot.formValue_without hName,
    Spot.isButtonLike_without hName, Spot.isTextLike_without hName, Spot.isImageLike_without hName,
    visibleText_without hName]
  simp (disch := decide) only [Spot.attrText_without hName, fits_without]

theorem label_without (hName : Unread name) (lens : Lens) (s : Spot) :
    (lens.without name).label (s.without name) = lens.label s := by
  rw [label, label?_without hName, label]

/-- Names stay. -/
theorem name_without (hName : Unread name) (lens : Lens) (s : Spot) :
    (lens.without name).name (s.without name) = lens.name s := by
  rw [Lens.name, name?_without hName, Lens.name]

end Lens
end StableLocator
