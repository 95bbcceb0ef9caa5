import StableLocator.Locator.Match
import StableLocator.Locator.Reader

/-!
# Resolving texts

A text is a selector or a locator. One that looks like a call is read as a locator; any other is
tried as a selector first, and read as a locator if it selects nothing.

* `looksLikeCall` is the rule for the order.
* `resolve` gives the elements with the way in which the text was understood.
* `resolvedSpots` gives the elements alone, none if resolving fails.
-/

namespace StableLocator

/-! ## Texts that look like calls -/

/-- A letter from `a` to `z` in any case, or an underscore. Some letters outside ASCII have one of
these as their other case. -/
def isMethodPart (c : Char) : Bool :=
  c == '_' || c.isAlpha || [0x130, 0x131, 0x17F, 0x212A].contains c.toNat

/-- An opening bracket comes next, possibly after white space. -/
def opensBracket (cs : List Char) : Bool := (Text.trimStart cs).head? == some '('

/-- A call of a method for locators begins here. -/
def beginsCall (cs : List Char) : Bool :=
  let getter := do
    let rest ← Text.afterAlike? "get".toList cs
    let rest := if rest.head? = some '_' then rest.tail else rest
    let rest ← Text.afterAlike? "by".toList rest
    pure (opensBracket (rest.dropWhile isMethodPart))
  getter == some true || (Text.afterAlike? "locator".toList cs).any opensBracket

/-- A call of a method for locators begins somewhere. -/
def containsCall : List Char → Bool
  | [] => false
  | c :: rest => beginsCall (c :: rest) || containsCall rest

/-- A text looks like a locator. -/
def looksLikeCall (text : String) : Bool := containsCall text.toList

/-! ## Resolutions -/

inductive Understanding
  | blank
  | selector
  | locator
  | neither (fault : ReadingFault)
  | failed (message : String)
  | noPage
  deriving DecidableEq, Repr

namespace Understanding

def mode : Understanding → String
  | .selector => "css"
  | .locator => "locator"
  | _ => "none"

def message : Understanding → String
  | .blank => "Empty locator."
  | .selector => "Matched as CSS selector."
  | .locator => "Matched as locator expression."
  | .neither fault => fault.message
  | .failed message => "Verification failed: " ++ message
  | .noPage => "No page."

end Understanding

structure Resolution where
  understanding : Understanding
  spots : List Spot := []
  deriving Repr

def Resolution.count (r : Resolution) : Nat := r.spots.length

/-- The elements that a text selects as a selector; none for a text that looks like a call. -/
def resolveSelector (text : String) (page : Page) : List Spot :=
  if looksLikeCall text then [] else (page.root.select? text).getD []

def resolveLocator (text : String) (page : Page) (limit : Int) (faults : Faults) :
    Resolution :=
  match readQueries text with
  | .error e => ⟨.neither e, []⟩
  | .ok queries => ⟨.locator, chainMatches queries (Lens.ofPage page limit faults) page⟩

/-- What a text resolves to in a page. -/
def resolve (text : String) (page : Page) (limit : Int) (faults : Faults := []) :
    Resolution :=
  let text := Text.trim text
  if text = "" then ⟨.blank, []⟩
  else
    match resolveSelector text page with
    | [] => resolveLocator text page limit faults
    | spots => ⟨.selector, spots⟩

/-- What a text resolves to, where resolving may fail as a whole. -/
def resolve? (text : String) (page : Page) (limit : Int) (faults : Faults) :
    Except String Resolution :=
  faults.guard .resolution (resolve text page limit faults)

/-- The elements that a text resolves to; none if resolving fails. -/
def resolvedSpots (text : String) (page : Page) (limit : Int) (faults : Faults := []) :
    List Spot :=
  match resolve? text page limit faults with
  | .ok r => r.spots
  | .error _ => []

end StableLocator
