import StableLocator.Fault
import StableLocator.Page.Tree

/-!
# Locators

A locator is a chain of queries: the first searches the page, each further one searches inside what
the one before it found. A query asks for elements by one strategy. A finding is a locator together
with how it was found and how far it can be trusted.
-/

namespace StableLocator

/-- What a query goes by. -/
inductive Strategy
  | testId
  /-- The role, and possibly the name. -/
  | roleName
  | role
  | label
  | placeholder
  | altText
  | title
  /-- The accessible name, whatever it comes from. -/
  | text
  /-- A selector. -/
  | path
  deriving DecidableEq, Repr

/-- Where a query searches. -/
inductive Scope
  | page
  | within (place : Place)
  deriving DecidableEq, Repr

/-- A question for elements. -/
structure Query where
  strategy : Strategy
  value : String
  /-- The name that elements with the role must have; only the strategies by role ask for it. -/
  name? : Option String := none
  /-- Texts must be equal; otherwise the text of the query need only occur. -/
  exact : Bool := false
  scope : Scope := .page
  deriving DecidableEq, Repr

/-- A chain of queries with at least one. -/
structure Locator where
  first : Query
  rest : List Query := []
  deriving DecidableEq, Repr

namespace Locator

def queries (l : Locator) : List Query := l.first :: l.rest

def isChained (l : Locator) : Bool := !l.rest.isEmpty

def last (l : Locator) : Query := l.rest.getLast?.getD l.first

/-- The locator with these queries. -/
def ofList? : List Query → Option Locator
  | [] => none
  | q :: rest => some ⟨q, rest⟩

theorem ofList?_queries (l : Locator) : ofList? l.queries = some l := rfl

theorem queries_of_ofList? {qs : List Query} {l : Locator} (h : ofList? qs = some l) :
    l.queries = qs := by
  cases qs with
  | nil => simp [ofList?] at h
  | cons q rest =>
    simp only [ofList?, Option.some.injEq] at h
    simp [← h, queries]

end Locator

/-- How far a locator can be trusted to go on finding its element. -/
inductive Severity
  | none
  | warning
  | critical
  deriving DecidableEq, Repr

/-- Where a locator comes from: a tier of the ladder, or the tag alone. -/
inductive Origin
  | tier (tier : Tier)
  | tag
  deriving DecidableEq, Repr

/-- A locator that was found for an element. -/
structure Finding where
  locator : Locator
  severity : Severity
  origin : Origin
  deriving DecidableEq, Repr

end StableLocator
