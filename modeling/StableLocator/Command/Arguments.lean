import StableLocator.Number.Integer

/-!
# Arguments

A command line is read by a grammar of options and positional arguments, in any order. A long
option may be cut short as long as no other option begins in the same way, and its value may follow
an equals sign. After `--` everything is positional. Where `--` itself takes the place of a value or
of a positional argument, nothing is there: the place is taken, and has no text.

A grammar may end with a command: a positional argument that takes all that follows it, for a
grammar of its own.

* `Argument.classify` tells options and positional arguments apart.
* `Grammar.read` reads a whole line.
-/

namespace StableLocator

inductive Takes
  /-- Nothing; it asks for help. -/
  | help
  | nothing
  /-- A text, one of those listed if any is. -/
  | text (choices : List String)
  | integer
  deriving DecidableEq, Repr

structure OptionRule where
  key : String
  names : List String
  takes : Takes
  required : Bool := false
  deriving DecidableEq, Repr

structure Grammar where
  options : List OptionRule
  positionals : List String
  /-- A command comes last, with all that follows it. -/
  command : Bool := false
  deriving DecidableEq, Repr

/-- A command line that ends the program: help is shown, or the line is wrong. -/
inductive Exit
  | help
  | usage
  deriving DecidableEq, Repr

def Exit.status : Exit → Nat
  | .help => 0
  | .usage => 2

/-- An option as it was written: its rule, its spelling and the value that is written with it. -/
structure Written where
  rule : OptionRule
  name : String
  value : Option String
  deriving DecidableEq, Repr

inductive ArgumentKind
  | positional
  | separator
  | option (written : Written)
  | unknown
  deriving DecidableEq, Repr

structure Argument where
  text : String
  kind : ArgumentKind
  deriving DecidableEq, Repr

structure Found where
  flags : List String := []
  /-- The options with their values. -/
  values : List (String × Option String) := []
  positionals : List (String × Option String) := []
  /-- Arguments that have no place. -/
  extras : List String := []
  /-- The command and what follows it. -/
  command : List String := []
  deriving DecidableEq, Repr

namespace Grammar

def spellings (g : Grammar) : List (String × OptionRule) :=
  g.options.flatMap fun rule => rule.names.map fun name => (name, rule)

def cutAtEquals (text : String) : String × Option String :=
  let cs := text.toList
  match cs.dropWhile (· != '=') with
  | _ :: value => (String.ofList (cs.takeWhile (· != '=')), some (String.ofList value))
  | [] => (text, none)

/-- The options that an argument may be a short form of. A single dash with one letter may have its
value attached. -/
def candidates (g : Grammar) (text : String) : List Written :=
  if text.startsWith "--" then
    let (start, value) := cutAtEquals text
    g.spellings.filterMap fun (name, rule) =>
      if name.startsWith start then some ⟨rule, name, value⟩ else none
  else
    let short := String.ofList (text.toList.take 2)
    g.spellings.filterMap fun (name, rule) =>
      if name = short then some ⟨rule, name, some (String.ofList (text.toList.drop 2))⟩
      else if name.startsWith text then some ⟨rule, name, none⟩
      else none

def withoutLineFeed (cs : List Char) : List Char :=
  if cs.getLast? = some '\n' then cs.dropLast else cs

/-- A negative number: a dash and digits, possibly with a point before the last ones. A line feed
may follow. -/
def isNegativeNumber (text : String) : Bool :=
  match withoutLineFeed text.toList with
  | '-' :: rest =>
    let isDigit (c : Char) : Bool := (Text.decimalValue? c).isSome
    let after := rest.dropWhile isDigit
    (after.isEmpty && !rest.isEmpty) ||
      (after.head? == some '.' && !after.tail.isEmpty && after.tail.all isDigit)
  | _ => false

/-- What an argument before `--` is. It is wrong if it is short for several options. -/
def kindOf (g : Grammar) (text : String) : Except Exit ArgumentKind :=
  let (start, value) := cutAtEquals text
  if !text.startsWith "-" ∨ text = "-" then .ok .positional
  else
    match g.spellings.lookup text, g.spellings.lookup start with
    | some rule, _ => .ok (.option ⟨rule, text, none⟩)
    | none, some rule => .ok (.option ⟨rule, start, value⟩)
    | none, none =>
      match g.candidates text with
      | [] =>
        if isNegativeNumber text || text.toList.contains ' ' then .ok .positional
        else .ok .unknown
      | [written] => .ok (.option written)
      | _ => .error .usage

def classify (g : Grammar) : List String → Except Exit (List Argument)
  | [] => .ok []
  | text :: rest =>
    if text = "--" then .ok (⟨text, .separator⟩ :: rest.map fun text => ⟨text, .positional⟩)
    else do
      let kind ← g.kindOf text
      let more ← g.classify rest
      pure (⟨text, kind⟩ :: more)

end Grammar

def placed (text : String) : Option String := if text = "--" then none else some text

namespace Argument

def isOption (a : Argument) : Bool :=
  match a.kind with
  | .option _ | .unknown => true
  | _ => false

/-- A positional argument at the front with the separator beside it, and what follows. -/
def takePositional? : List Argument → Option (Option String × List Argument)
  | ⟨_, .separator⟩ :: ⟨text, .positional⟩ :: rest => some (some text, rest)
  | ⟨text, .positional⟩ :: ⟨_, .separator⟩ :: rest => some (some text, rest)
  | ⟨text, .positional⟩ :: rest => some (placed text, rest)
  | _ => none

end Argument

/-! ## Reading -/

inductive Slot
  | single (key : String)
  | command
  deriving DecidableEq, Repr

namespace Slot

def beginsCommand : List Argument → Bool
  | ⟨_, .positional⟩ :: _ => true
  | ⟨_, .separator⟩ :: ⟨_, .positional⟩ :: _ => true
  | _ => false

/-- As many slots as possible are filled from the front: the slots that stay empty, the arguments
that are left, and what was found. -/
def fill : List Slot → List Argument → Found → List Slot × List Argument × Found
  | [], args, found => ([], args, found)
  | .single key :: slots, args, found =>
    match Argument.takePositional? args with
    | some (text, rest) =>
      fill slots rest { found with positionals := found.positionals ++ [(key, text)] }
    | none => (.single key :: slots, args, found)
  | .command :: slots, args, found =>
    if beginsCommand args then
      (slots, [], { found with command := args.map Argument.text })
    else (.command :: slots, args, found)

end Slot

namespace Grammar

def slots (g : Grammar) : List Slot :=
  g.positionals.map .single ++ if g.command then [.command] else []

abbrev Taking := OptionRule × Option String

/-- Options with one letter each that are written together, after the first of them. -/
def takeTogether (g : Grammar) (rule : OptionRule) (name : String) :
    List Char → Except Exit (List Taking)
  | [] => .ok [(rule, none)]
  | c :: rest =>
    match rule.takes with
    | .text _ | .integer => .ok [(rule, some (String.ofList (c :: rest)))]
    | .help | .nothing =>
      if name.startsWith "--" then .error .usage
      else
        let next := String.ofList ['-', c]
        match g.spellings.lookup next with
        | some nextRule => (g.takeTogether nextRule next rest).map ((rule, none) :: ·)
        | none => .error .usage

/-- An option with its value, which is written with it or comes next, and what follows. -/
def takeOption (g : Grammar) (written : Written) (rest : List Argument) :
    Except Exit (List Taking × List Argument) :=
  match written.rule.takes, written.value, rest with
  | .text _, some value, _ | .integer, some value, _ => .ok ([(written.rule, some value)], rest)
  | .text _, none, ⟨value, .positional⟩ :: rest | .integer, none, ⟨value, .positional⟩ :: rest =>
    .ok ([(written.rule, some value)], rest)
  | .text _, none, _ | .integer, none, _ => .error .usage
  | _, none, _ => .ok ([(written.rule, none)], rest)
  | _, some value, _ =>
    if value = "" then .error .usage
    else (g.takeTogether written.rule written.name value.toList).map fun taken => (taken, rest)

def apply (found : Found) : Taking → Except Exit Found
  | (rule, value) =>
    let value := value >>= placed
    let taken : Found := { found with values := found.values ++ [(rule.key, value)] }
    match rule.takes with
    | .help => .error .help
    | .nothing => .ok { found with flags := found.flags ++ [rule.key] }
    | .text choices =>
      if choices.isEmpty || value.all fun text => choices.contains text then .ok taken
      else .error .usage
    | .integer =>
      if value.all fun text => (Number.readInteger text).toOption.isSome then .ok taken
      else .error .usage

/-- Slots are filled and options taken in turn. Each step uses an argument at least, so `fuel`
counts the arguments. -/
def readFrom (g : Grammar) : (fuel : Nat) → List Slot → List Argument → Found →
    Except Exit (List Slot × Found)
  | 0, slots, _, found => .ok (slots, found)
  | fuel + 1, slots, args, found =>
    if !args.any Argument.isOption then
      let (slots, rest, found) := Slot.fill slots args found
      .ok (slots, { found with extras := found.extras ++ rest.map Argument.text })
    else
      match args with
      | [] => .ok (slots, found)
      | ⟨text, .unknown⟩ :: rest =>
        g.readFrom fuel slots rest { found with extras := found.extras ++ [text] }
      | ⟨_, .option written⟩ :: rest => do
        let (taken, rest) ← g.takeOption written rest
        let found ← taken.foldlM apply found
        g.readFrom fuel slots rest found
      | args =>
        -- Positional arguments stand before the next option.
        let (slots, rest, filled) := Slot.fill slots args found
        if rest.length < args.length then g.readFrom fuel slots rest filled
        else
          let stray := args.takeWhile fun a => !a.isOption
          g.readFrom fuel slots (args.dropWhile fun a => !a.isOption)
            { found with extras := found.extras ++ stray.map Argument.text }

def lacks (g : Grammar) (found : Found) : Bool :=
  g.options.any fun rule => rule.required && (found.values.lookup rule.key).isNone

def read (g : Grammar) (line : List String) : Except Exit Found := do
  let args ← g.classify line
  let (slots, found) ← g.readFrom (args.length + 1) g.slots args {}
  if !slots.isEmpty || g.lacks found then .error .usage else pure found

end Grammar

namespace Found

def positional? (f : Found) (key : String) : Option String := (f.positionals.lookup key).join

def positional (f : Found) (key : String) : String := (f.positional? key).getD ""

def option? (f : Found) (key : String) : Option (Option String) := f.values.reverse.lookup key

/-- The value of an option; the last one counts. -/
def value? (f : Found) (key : String) : Option String := (f.option? key).join

end Found
end StableLocator
