import StableLocator.Session.Basic

/-!
# Marks

Verifying marks the elements that were found with an attribute, on the pages themselves. Marks are
cleared where they are known to be, and wherever the page in use has the attribute.
-/

namespace StableLocator

abbrev Pages := List Page

namespace Page

/-- The page without an attribute at some places. -/
def eraseAt (name : String) (places : List Place) (page : Page) : Page :=
  page.mapAttrs fun place attrs => if places.contains place then attrs.erase name else attrs

/-- The page with an attribute of value `true` at some places. -/
def markAt (name : String) (places : List Place) (page : Page) : Page :=
  page.mapAttrs fun place attrs =>
    if places.contains place then attrs.put name (.single "true") else attrs

def placesWith (name : String) (page : Page) : List Place :=
  (page.elements.filter fun s => s.attrs.has name).map Spot.place

/-- The places of the elements that are seen to have an attribute: an empty list of tokens is not
seen. -/
def placesSeenWith (name : String) (page : Page) : List Place :=
  (page.elements.filter fun s =>
    match s.attrs.lookup name with
    | none => false
    | some value => value != .tokens []).map Spot.place

end Page

namespace Pages

/-- The page with a number; an empty one beyond the last. -/
def page (pages : Pages) (number : Nat) : Page := pages[number]?.getD { nodes := [] }

def change (pages : Pages) (number : Nat) (rule : Page → Page) : Pages := pages.modify number rule

def placesOn (marks : List Mark) (number : Nat) : List Place :=
  (marks.filter fun m => m.page == number).map Mark.place

def eraseMarks (name : String) (marks : List Mark) (pages : Pages) : Pages :=
  pages.mapIdx fun number page => page.eraseAt name (placesOn marks number)

def countMarks (name : String) (marks : List Mark) (pages : Pages) : Nat :=
  marks.countP fun m => ((page pages m.page).placesWith name).contains m.place

/-- The pages without the attribute at known marks and on the whole page in use, with the number of
elements that lost it. -/
def clear (name : String) (known : List Mark) (number : Nat) (pages : Pages) : Nat × Pages :=
  let erased := eraseMarks name known pages
  let seen := (page erased number).placesSeenWith name
  (countMarks name known pages + seen.length, erased.change number (Page.eraseAt name seen))

/-- The pages with the attribute at places of one of them. -/
def mark (name : String) (places : List Place) (number : Nat) (pages : Pages) : Pages :=
  pages.change number (Page.markAt name places)

end Pages
end StableLocator
