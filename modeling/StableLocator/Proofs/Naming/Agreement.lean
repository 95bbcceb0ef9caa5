import StableLocator.Naming.Name

/-!
# Lenses that agree

What a lens makes of an element depends on the visible texts that it shows, on the references that it
leads to, and for names on its limit; labels have no limit.

* `Lens.Agree` — two lenses agree about an element;
* `Lens.Agree.label` and `Lens.Agree.name` — then they give it the same label and the same name.
-/

namespace StableLocator
namespace Lens

/-- Two lenses show the same texts, and lead to the same references for an element. -/
structure Agree (lens lens' : Lens) (s : Spot) : Prop where
  visibleText : lens.visibleText = lens'.visibleText
  referencesFor : lens.referencesFor s = lens'.referencesFor s

variable {lens lens' : Lens} {s : Spot}

/-- Lenses that show the same texts agree on any text. -/
theorem anyText_congr (h : lens.visibleText = lens'.visibleText) : lens.anyText = lens'.anyText := by
  funext t
  rw [anyText, h, anyText]

/-- Lenses that show the same texts agree on referenced texts. -/
theorem textsOf_congr (h : lens.visibleText = lens'.visibleText) (references : References)
    (ids : List String) : lens.textsOf references ids = lens'.textsOf references ids := by
  induction ids with
  | nil => rfl
  | cons id ids ih => rw [textsOf, textsOf, anyText_congr h, ih]

theorem referredLabel_congr (h : lens.visibleText = lens'.visibleText) (references : References)
    (listed id : String) :
    lens.referredLabel references listed id = lens'.referredLabel references listed id := by
  rw [referredLabel, textsOf_congr h, anyText_congr h, referredLabel]

/-- Labels agree, faults included. -/
theorem Agree.label? (h : Agree lens lens' s) : lens.label? s = lens'.label? s := by
  have hReferred : lens.referredLabel = lens'.referredLabel := by
    funext references listed id
    exact referredLabel_congr h.visibleText references listed id
  rw [Lens.label?, h.referencesFor, hReferred, Lens.label?]

theorem Agree.label (h : Agree lens lens' s) : lens.label s = lens'.label s := by
  rw [Lens.label, h.label?, Lens.label]

/-- Names agree under one limit. -/
theorem Agree.name (h : Agree lens lens' s) (hLimit : lens.limit = lens'.limit) :
    lens.name s = lens'.name s := by
  have hFits : lens.fits = lens'.fits := by
    funext text
    rw [fits, hLimit, fits]
  have hName : lens.name? s = lens'.name? s := by
    rw [name?, h.label?, h.visibleText, hFits, name?]
  rw [Lens.name, hName, Lens.name]

end Lens
end StableLocator
