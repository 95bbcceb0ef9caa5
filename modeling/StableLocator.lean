import StableLocator.Main
import StableLocator.Proofs.Page.Order
import StableLocator.Settings.Outside
import StableLocator.Proofs.Locator.Chain
import StableLocator.Proofs.Locator.Margin
import StableLocator.Proofs.Locator.Grammar
import StableLocator.Proofs.Locator.Reading
import StableLocator.Proofs.Locator.Resolving
import StableLocator.Proofs.Locator.Trust
import StableLocator.Proofs.Markup.Tidy
import StableLocator.Proofs.Selector.Written
import StableLocator.Proofs.Selector.Segments
import StableLocator.Proofs.Locator.Path
import StableLocator.Proofs.Locator.Fallback
import StableLocator.Proofs.Locator.Crowd
import StableLocator.Proofs.Locator.Without
import StableLocator.Proofs.Session.Course
import StableLocator.Proofs.Session.History
import StableLocator.Proofs.Session.Armings
import StableLocator.Proofs.Settings.Loading
import StableLocator.Proofs.Settings.Folder
import StableLocator.Proofs.Settings.Saving
import StableLocator.Proofs.Browser.Accounts
import StableLocator.Proofs.Browser.Clicks
import StableLocator.Proofs.Locator.Copying
import StableLocator.Proofs.Browser.Mirror
import StableLocator.Proofs.Browser.Origins
import StableLocator.Proofs.Locator.Disjoint
import StableLocator.Proofs.Naming.Memo
import StableLocator.Proofs.Locator.Isolation
import StableLocator.Proofs.Locator.Sole
import StableLocator.Proofs.Locator.Exact
import StableLocator.Proofs.Locator.UniqueId
import StableLocator.Proofs.Locator.Levels
import StableLocator.Proofs.Locator.Tags
import StableLocator.Proofs.Locator.Scoping
import StableLocator.Proofs.Locator.Nearest
import StableLocator.Proofs.Page.Stamps
import StableLocator.Proofs.Settings.Fields
import StableLocator.Proofs.Naming.Sources
import StableLocator.Proofs.Browser.Outlines
import StableLocator.Proofs.Page.Declarations
import StableLocator.Proofs.Selector.Classes
import StableLocator.Proofs.Locator.Covering
import StableLocator.Proofs.Command.Endings
