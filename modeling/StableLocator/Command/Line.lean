import StableLocator.Command.Arguments
import StableLocator.Locator.Printer

/-!
# Commands

The program looks for locators in a file, verifies a text on a file, picks in a browser, and shows
or changes the settings. `Command.read` reads a command line.
-/

namespace StableLocator

/-- What the program is asked to do. A selector, a number or a value may be missing although it was
asked for. -/
inductive Command
  | synthesize (file : String) (selector : Option String) (dialect : Option Dialect) (all : Bool)
  | verify (file text : String)
  | pick (url : String) (dialect : Option Dialect) (count : Option Int) (headless : Bool)
  | showSettings
  | changeSetting (key : String) (value : Option String)
  deriving DecidableEq, Repr

namespace Command

def missingText : String := "[]"

def helpRule : OptionRule := { key := "help", names := ["-h", "--help"], takes := .help }

def dialectRule : OptionRule :=
  { key := "dialect", names := ["--dialect"], takes := .text (Dialect.known.map Dialect.name) }

def lineGrammar : Grammar where
  options := [helpRule, { key := "verbose", names := ["-v", "--verbose"], takes := .nothing }]
  positionals := []
  command := true

def synthesizeGrammar : Grammar where
  options :=
    [helpRule, { key := "select", names := ["--select"], takes := .text [], required := true },
     dialectRule, { key := "all", names := ["--all"], takes := .nothing }]
  positionals := ["file"]

def verifyGrammar : Grammar where
  options := [helpRule]
  positionals := ["file", "expression"]

def pickGrammar : Grammar where
  options :=
    [helpRule, dialectRule, { key := "count", names := ["--count"], takes := .integer },
     { key := "headless", names := ["--headless"], takes := .nothing }]
  positionals := ["url"]

def configGrammar : Grammar where
  options := [helpRule]
  positionals := []
  command := true

def showGrammar : Grammar where
  options := [helpRule]
  positionals := []

def changeGrammar : Grammar where
  options := [helpRule]
  positionals := ["key", "value"]

def missingDialect : Dialect := ⟨missingText⟩

def dialectOf (f : Found) : Option Dialect := (f.value? "dialect").map Dialect.mk

/-- The dialect that was chosen for picking, where a missing one is not passed over. -/
def pickDialectOf (f : Found) : Option Dialect :=
  (f.option? "dialect").map fun value => (value.map Dialect.mk).getD missingDialect

def countOf (f : Found) : Option Int :=
  match f.option? "count" with
  | some value => value.bind fun text => (Number.readInteger text).toOption
  | none => some 1

/-- The command on settings, and arguments that have no place. -/
def readConfig (rest : List String) : Except Exit (Command × List String) := do
  let outer ← configGrammar.read rest
  match outer.command with
  | "show" :: rest =>
    let f ← showGrammar.read rest
    pure (.showSettings, outer.extras ++ f.extras)
  | "set" :: rest =>
    let f ← changeGrammar.read rest
    pure (.changeSetting (f.positional "key") (f.positional? "value"), outer.extras ++ f.extras)
  | _ => .error .usage

/-- A command by its name, and arguments that have no place. -/
def readNamed (name : String) (rest : List String) : Except Exit (Command × List String) :=
  match name with
  | "synthesize" => do
    let f ← synthesizeGrammar.read rest
    let all := f.flags.contains "all"
    pure (.synthesize (f.positional "file") (f.value? "select") (dialectOf f) all, f.extras)
  | "verify" => do
    let f ← verifyGrammar.read rest
    pure (.verify (f.positional "file") (f.positional "expression"), f.extras)
  | "pick" => do
    let f ← pickGrammar.read rest
    let headless := f.flags.contains "headless"
    pure (.pick (f.positional "url") (pickDialectOf f) (countOf f) headless, f.extras)
  | "config" => readConfig rest
  | _ => .error .usage

def read (line : List String) : Except Exit Command := do
  let outer ← lineGrammar.read line
  match outer.command with
  | name :: rest =>
    let (command, extras) ← readNamed name rest
    if outer.extras.isEmpty && extras.isEmpty then pure command else .error .usage
  | [] => .error .usage

end Command
end StableLocator
