import StableLocator.Locator.Match
import StableLocator.Locator.Path
import StableLocator.Locator.Printer

/-!
# The ladder of locators

A locator for an element is looked for in tiers, from the most to the least stable kind, and the
first tier that has one ends the search. A locator of full trust finds exactly the element.

* `Target` is an element that a locator is wanted for, with all that the search depends on.
* `Target.tier` is one tier of the ladder.
* `Target.find` climbs the ladder. It always ends with a locator: if a tier fails, that is the tag.
-/

namespace StableLocator

def defaultAncestorDepth : Int := 4

structure Target where
  spot : Spot
  page : Page
  lens : Lens
  depth : Int := defaultAncestorDepth

namespace Tier

def ladder : List Tier :=
  [.testId, .roleName, .label, .placeholder, .altText, .title, .role, .text, .ancestorChain,
   .textFallback, .structuralPath]

def name : Tier → String
  | .testId => "test_id"
  | .roleName => "role_name"
  | .label => "label"
  | .placeholder => "placeholder"
  | .altText => "alt_text"
  | .title => "title"
  | .role => "role"
  | .text => "text"
  | .ancestorChain => "ancestor_chain"
  | .textFallback => "text_fallback"
  | .structuralPath => "structural_path"

end Tier

def Origin.name : Origin → String
  | .tier t => t.name
  | .tag => "tag"

/-- The first attribute that has any text, with its text collapsed. -/
def firstPresent : List (String × Option String) → Option (String × String)
  | [] => none
  | (name, value) :: rest =>
    let text := Text.collapse (value.getD "")
    if text = "" then firstPresent rest else some (name, text)

/-- The first test id of an element that has any text. -/
def Spot.testId? (s : Spot) : Option String :=
  (firstPresent (testIdNames.map fun name => (name, s.attr? name))).map Prod.snd

namespace Target

def of (page : Page) (spot : Spot) (limit depth : Int) (faults : Faults := []) : Target :=
  ⟨spot, page, Lens.ofPage page limit faults, depth⟩

/-- The role of an element, if it has a name, and the name. -/
def roleAndName? (t : Target) (s : Spot) : Option (String × String) :=
  match s.role, t.lens.name s with
  | some role, name => if role = "" ∨ name = "" then none else some (role, name)
  | none, _ => none

/-- The name of an element, if it is short. -/
def shortName? (t : Target) (s : Spot) : Option String :=
  let name := t.lens.name s
  if name ≠ "" ∧ t.lens.fits name then some name else none

/-! ## Uniqueness -/

/-- Where a query for an element searches: the whole page, or inside an ancestor. -/
abbrev Where := Option Spot

def isUnique (t : Target) (q : Query) (inside : Where) (wanted : Spot) : Bool :=
  isOnly (q.matchesIn t.lens (inside.getD t.page.root)) wanted

def scopeOf (inside : Where) : Scope :=
  match inside with
  | some s => .within s.place
  | none => .page

def proven? (t : Target) (q : Query) (inside : Where) (wanted : Spot) : Option Query :=
  let q := { q with scope := scopeOf inside }
  if t.isUnique q inside wanted then some q else none

/-- The query with exact texts, else with texts that need only occur, if one finds exactly the
wanted element. -/
def exactOrLoose? (t : Target) (q : Query) (inside : Where) (wanted : Spot) : Option Query :=
  t.proven? { q with exact := true } inside wanted <|>
    t.proven? { q with exact := false } inside wanted

/-! ## Single tiers -/

def finding (tier : Tier) (q : Query) (severity : Severity := .none) : Finding :=
  ⟨⟨q, []⟩, severity, .tier tier⟩

def prefersAltText (t : Target) : Bool := t.spot.isImageLike && t.spot.attrText "alt" != ""

def byAttribute (t : Target) (tier : Tier) (strategy : Strategy) (name : String) :
    Option Finding :=
  let value := t.spot.attrText name
  if value = "" then none
  else (t.exactOrLoose? { strategy, value } none t.spot).map (finding tier ·)

/-- A test id is trusted; that others share it lowers the trust only. -/
def byTestId (t : Target) : Option Finding :=
  t.spot.testId?.map fun value =>
    let q : Query := { strategy := .testId, value }
    finding .testId q (if t.isUnique q none t.spot then .none else .warning)

def byRoleName (t : Target) : Option Finding := do
  let (role, name) ← t.roleAndName? t.spot
  if t.prefersAltText then none
  else
    let q ← t.exactOrLoose? { strategy := .roleName, value := role, name? := some name } none t.spot
    pure (finding .roleName q)

def unlabelledRoles : List String := ["button", "link"]

def byLabel (t : Target) : Option Finding :=
  let value := t.lens.label t.spot
  if value = "" ∨ t.spot.role.any unlabelledRoles.contains ∨ t.prefersAltText then none
  else (t.exactOrLoose? { strategy := .label, value } none t.spot).map (finding .label ·)

def byRole (t : Target) : Option Finding := do
  let role ← t.spot.role
  if role = "" then none
  else
    let q ← t.proven? { strategy := .role, value := role } none t.spot
    pure (finding .role q)

def byText (t : Target) : Option Finding := do
  let name ← t.shortName? t.spot
  let q ← t.proven? { strategy := .text, value := name, exact := true } none t.spot
  pure (finding .text q)

def byLooseText (t : Target) : Option Finding :=
  (t.shortName? t.spot).map fun name =>
    finding .textFallback { strategy := .text, value := name } .warning

def byPath (t : Target) : Option Finding :=
  let path := t.spot.structuralPath t.page.root
  if path = "" then none
  else some (finding .structuralPath { strategy := .path, value := path } .warning)

/-! ## Ancestors -/

/-- The ancestors below the page frame to look at, nearest first. -/
def chainAncestors (t : Target) : List Spot :=
  (t.spot.ancestors.takeWhile fun a => !a.isPageFrame).take t.depth.toNat

/-- A query that finds exactly the wanted element, by test id, by role and name, or by short
name. -/
def stableQuery? (t : Target) (inside : Where) (wanted : Spot) : Option Query :=
  let byId := do
    let value ← wanted.testId?
    t.proven? { strategy := .testId, value } inside wanted
  let byRole := do
    let (role, name) ← t.roleAndName? wanted
    t.exactOrLoose? { strategy := .roleName, value := role, name? := some name } inside wanted
  let byName := do
    let name ← t.shortName? wanted
    t.proven? { strategy := .text, value := name, exact := true } inside wanted
  byId <|> byRole <|> byName

/-- A query that finds exactly the element inside an ancestor. -/
def childQuery? (t : Target) (ancestor : Spot) : Option Query :=
  t.stableQuery? (some ancestor) t.spot <|>
    t.proven? { strategy := .path, value := t.spot.segment } (some ancestor) t.spot

/-- The locator that goes by an ancestor first. -/
def chainBy? (t : Target) (ancestor : Spot) : Option Finding := do
  let anchor ← t.stableQuery? none ancestor
  let child ← t.childQuery? ancestor
  pure ⟨⟨anchor, [child]⟩, .none, .tier .ancestorChain⟩

/-- The finding by the nearest ancestor that serves. -/
def byAncestor (t : Target) : Option Finding := t.chainAncestors.findSome? t.chainBy?

/-! ## The ladder -/

def tier (t : Target) : Tier → Option Finding
  | .testId => t.byTestId
  | .roleName => t.byRoleName
  | .label => t.byLabel
  | .placeholder => t.byAttribute .placeholder .placeholder "placeholder"
  | .altText => if t.spot.isImageLike then t.byAttribute .altText .altText "alt" else none
  | .title => t.byAttribute .title .title "title"
  | .role => t.byRole
  | .text => t.byText
  | .ancestorChain => t.byAncestor
  | .textFallback => t.byLooseText
  | .structuralPath => t.byPath

def tier? (t : Target) (step : Tier) : Except String (Option Finding) :=
  t.lens.faults.guard (.tier step) (t.tier step)

/-- The first finding among tiers, or the fault that strikes at one before. -/
def climb (t : Target) : List Tier → Except String (Option Finding)
  | [] => .ok none
  | step :: rest => do
    let found ← t.tier? step
    match found with
    | some f => pure (some f)
    | none => t.climb rest

def byTag (t : Target) : Finding :=
  ⟨⟨{ strategy := .path, value := t.spot.tagSelector }, []⟩, .critical, .tag⟩

/-- The finding of the ladder, or the fault that strikes before it. -/
def climbLadder (t : Target) : Except String (Option Finding) := do
  t.lens.faults.guard .ladder ()
  t.climb Tier.ladder

/-- The locator for the element. -/
def find (t : Target) : Finding :=
  match t.climbLadder with
  | .ok (some f) => f
  | _ => t.byTag

end Target
end StableLocator
