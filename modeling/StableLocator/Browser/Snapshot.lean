import StableLocator.Json.Value
import StableLocator.Markup.Builder
import StableLocator.Number.Integer

/-!
# Snapshots

A live page hands out a snapshot of itself: its markup, with a stamp on each element, its address
and its title. The index stamp finds the element again on the live page.
-/

namespace StableLocator

def indexStamp : String := "data-locator-index"

namespace Page

/-- The page of a snapshot. A value that is no object stands for an empty page, and the title of the
snapshot counts before that of the markup. -/
def ofSnapshot (snapshot : Json) : Except Markup.Rejection Page := do
  let page ← Page.read (snapshot.getD "html").shown (snapshot.getD "url").shown
  let title := (snapshot.getD "title").shown
  pure (if title = "" then page else { page with title })

/-- The element with an index stamp; the last one counts. -/
def atIndex? (page : Page) (index : Int) : Option Spot :=
  page.elements.reverse.find? fun s =>
    (s.attr? indexStamp).any fun stamp => (Number.readInteger stamp).toOption == some index

end Page
end StableLocator
