import StableLocator.Naming.Role
import StableLocator.Selector.Parser
import StableLocator.Selector.Writer

/-!
# Structural paths

The structural path of an element is the selector of its id, if no other element answers to it.
Otherwise it names the element and each element around it below `body` or `html` by tag and stable
classes, and by position where that does not tell siblings apart.
-/

namespace StableLocator

/-! ## Stable classes -/

/-- Class tokens without white space around them, blank ones and repeated ones left out. -/
def cleanTokens (tokens : List String) : List String :=
  tokens.foldl (fun kept token =>
    let clean := Text.trim token
    if clean = "" ∨ clean ∈ kept then kept else kept ++ [clean]) []

/-- A class token that is more than a short mark and has no part that a tool made up. -/
def isStableToken (token : String) : Bool :=
  let clean := Text.trim token
  2 < clean.length && !clean.toList.contains ':' && !clean.toList.contains '['

def stableTokens (tokens : List String) : List String := (cleanTokens tokens).filter isStableToken

namespace Spot

def stableClasses (s : Spot) : List String := stableTokens s.classTokens

def signature (s : Spot) : String × List String := (s.name, s.stableClasses)

/-! ## Segments -/

def tagSelector (s : Spot) : String := if s.name = "" then "*" else s.name

def signatureSelector (s : Spot) : String :=
  s.tagSelector ++ String.join (s.stableClasses.map fun token => "." ++ Selector.escapeName token)

/-- The number of elements in a row with the tag of an element, up to the element itself. -/
def positionIn (s : Spot) : List Spot → Nat
  | [] => 0
  | t :: rest =>
    let here := if t.name = s.tagSelector then 1 else 0
    if t.same s then here else here + s.positionIn rest

/-- The selector of an element among the elements of a container: its position is added where
another one has the same signature. -/
def segmentIn (s : Spot) (container : Spot) : String :=
  let siblings := container.children
  if siblings.countP (fun t => t.signature = s.signature) < 2 then s.signatureSelector
  else s.signatureSelector ++ ":nth-of-type(" ++ Nat.repr (s.positionIn siblings) ++ ")"

def segment (s : Spot) : String :=
  match s.parentElement? with
  | some container => s.segmentIn container
  | none => s.signatureSelector

/-! ## Paths -/

/-- The selector of the element's id, if it is written without stray white space and no other
element of the page answers to it. -/
def uniqueId? (s : Spot) (page : Spot) : Option String :=
  let id := s.attrText "id"
  if id = "" ∨ s.attr? "id" ≠ some id then none
  else
    match page.select? (Selector.ofId id) with
    | some [found] => if found.same s then some (Selector.ofId id) else none
    | _ => none

/-- The element and those around it below the page frame, outermost first. -/
def lineage (s : Spot) : List Spot :=
  ((s :: s.ancestors).takeWhile fun a => !a.isPageFrame).reverse

/-- The innermost page frame that the element is in, or is. -/
def frame? (s : Spot) : Option Spot := (s :: s.ancestors).find? isPageFrame

def framePath (s : Spot) : String :=
  match s.lineage with
  | [] => s.tagSelector
  | steps =>
    let segments := steps.map segment
    let start := if s.frame?.any (fun f => f.name == "body") then ["body"] else []
    " > ".intercalate (start ++ segments)

/-- The structural path of an element in a page. -/
def structuralPath (s : Spot) (page : Spot) : String := (s.uniqueId? page).getD s.framePath

end Spot
end StableLocator
