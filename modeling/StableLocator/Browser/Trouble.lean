import StableLocator.Text.Blank
import StableLocator.Text.Casing

/-!
# What error messages say

A browser that fails says why in words only. Two reasons are told apart by phrases that occur in
the message, in any case: the browser is not installed, or the page is gone.
-/

namespace StableLocator
namespace Trouble

/-- Phrases of a browser that is not installed. -/
def missingPhrases : List String :=
  ["executable doesn't exist", "executable does not exist", "download new browsers",
   "playwright install", "could not find browser", "failed to launch chromium because executable"]

/-- Phrases of a page that is gone. -/
def closedPhrases : List String :=
  ["target page, context or browser has been closed", "target closed", "browser has been closed",
   "has been disconnected"]

def mentions (phrases : List String) (message : String) : Bool :=
  phrases.any fun phrase => Text.occurs phrase (Text.lower message)

def isMissingBrowser (message : String) : Bool := mentions missingPhrases message

def isClosedPage (message : String) : Bool := mentions closedPhrases message

end Trouble
end StableLocator
