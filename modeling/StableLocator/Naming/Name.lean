import StableLocator.Fault
import StableLocator.Naming.References
import StableLocator.Naming.Role

/-!
# Accessible names

* The label of an element comes from `aria-label`, from the elements that `aria-labelledby` lists,
  or from the `label` element for its id, whichever is the first with text.
* The name of an element is its label, else the value of a text control or a button, the alternative
  text of an image, its visible text, or its title; the last two count only below a length limit.

A `Lens` holds what names are read with. If reading fails, there is no name.
-/

namespace StableLocator

def defaultTextLimit : Int := 120

/-- How names are read: the limit for visible text, the references of the tree if they are known,
and the faults that can strike. -/
structure Lens where
  limit : Int := defaultTextLimit
  references : Option References := none
  faults : Faults := []

namespace Lens

def ofPage (page : Page) (limit : Int) (faults : Faults) : Lens :=
  ⟨limit, some (References.below page.root), faults⟩

/-- The references to look up for an element: the known ones, else those of its page. -/
def referencesFor (lens : Lens) (s : Spot) : Option References :=
  lens.references <|> s.document?.map References.below

def visibleText (lens : Lens) (s : Spot) : Except String String :=
  lens.faults.guard .visibleText s.visibleText

def anyText (lens : Lens) (s : Spot) : Except String String := do
  let shown ← lens.visibleText s
  pure (if shown = "" then Text.collapse s.allText else shown)

/-- The texts of the elements with the given ids that have any. -/
def textsOf (lens : Lens) (references : References) : List String → Except String (List String)
  | [] => pure []
  | id :: rest =>
    match references.ids.lookup id with
    | none => lens.textsOf references rest
    | some s => do
      let text ← lens.anyText s
      let more ← lens.textsOf references rest
      pure (if text = "" then more else text :: more)

/-- The label that the references give an element: from the ids in `listed`, else from the label
element for `id`. -/
def referredLabel (lens : Lens) (references : References) (listed id : String) :
    Except String String := do
  let texts ← if listed = "" then pure [] else lens.textsOf references (Text.splitWords listed)
  let joined := " ".intercalate texts
  if joined ≠ "" then pure joined
  else
    match if id = "" then none else references.labels.lookup id with
    | none => pure ""
    | some label => lens.anyText label

/-- The label of an element, or the fault that strikes while it is read. -/
def label? (lens : Lens) (s : Spot) : Except String String :=
  let own := s.attrText "aria-label"
  let listed := s.attrText "aria-labelledby"
  let id := s.attrText "id"
  if own ≠ "" then pure own
  else if listed = "" ∧ id = "" then pure ""
  else
    match lens.referencesFor s with
    | none => pure ""
    | some references => lens.referredLabel references listed id

def fits (lens : Lens) (text : String) : Bool := (text.length : Int) < lens.limit

/-- The name of an element, or the fault that strikes while it is read. -/
def name? (lens : Lens) (s : Spot) : Except String String := do
  let label ← lens.label? s
  let value := if s.isButtonLike || s.isTextLike then Text.collapse s.formValue else ""
  let alt := if s.isImageLike then s.attrText "alt" else ""
  if label ≠ "" then pure label
  else if value ≠ "" then pure value
  else if alt ≠ "" then pure alt
  else
    let text ← lens.visibleText s
    let title := s.attrText "title"
    if text ≠ "" ∧ lens.fits text then pure text
    else if title ≠ "" ∧ lens.fits title then pure title
    else pure ""

def label (lens : Lens) (s : Spot) : String := (lens.label? s).toOption.getD ""

def name (lens : Lens) (s : Spot) : String := (lens.name? s).toOption.getD ""

end Lens
end StableLocator
