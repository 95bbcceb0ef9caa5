import StableLocator.Browser.Picker
import StableLocator.Command.Disk
import StableLocator.Command.Line

/-!
# Running commands

A machine holds the files, the stored settings and a page to pick on. A command reads and changes
it, and ends with a status and two texts, one for results and one for messages; or it fails on
input that is no text or cannot be opened, or where something that was asked for is missing. The
system refuses no step of saving here, and settings that were loaded can always be written.

* `Machine.run` runs a command, `Machine.runLine` a command line.
-/

namespace StableLocator

structure Machine where
  /-- What reading the file at a path gives, with the folder with the settings as it is then. -/
  files : ConfigFolder → String → Except DiskFault (List UInt8)
  config : ConfigFolder := .missing
  /-- The path of the folder with the settings. -/
  configPath : String
  stage : Stage
  mishaps : Picker.Mishaps := {}
  faults : Faults := []

/-- How a command ends. -/
structure Ending where
  status : Nat
  output : String := ""
  messages : String := ""
  deriving DecidableEq, Repr

inductive CommandFault
  | settings (fault : Settings.LoadFault)
  | encoding (error : Text.Utf8Error)
  | markup (rejection : Markup.Rejection)
  | picker (fault : PickerFault)
  /-- The path has a null character. -/
  | nullInPath
  /-- The number of picks is missing. -/
  | noCount
  /-- The text for a switch is missing. -/
  | noSwitch

def CommandFault.message : CommandFault → String
  | .settings fault => fault.message
  | .encoding error => error.message
  | .markup rejection => rejection.message
  | .picker fault => fault.message
  | .nullInPath => "embedded null byte"
  | .noCount => "'>' not supported between instances of 'int' and 'list'"
  | .noSwitch => "'list' object has no attribute 'strip'"

/-- What comes of a command. -/
structure Outcome where
  result : Except CommandFault Ending
  machine : Machine
  calls : List Call := []

def lines (texts : List String) : String := String.join (texts.map fun text => text ++ "\n")

namespace Machine

/-! ## Files -/

/-- The page in a file: the ending if the file cannot be read, or a fault if it holds none. -/
def openPage (m : Machine) (file : String) : Except CommandFault (Except Ending Page) :=
  if file.toList.any fun c => c.toNat == 0 then .error .nullInPath
  else
    match m.files m.config file with
    | .error fault =>
      .ok (.error ⟨2, "", lines ["Could not read " ++ file ++ ": " ++ fault.message file]⟩)
    | .ok bytes =>
      match Text.decode bytes with
      | .error error => .error (.encoding error)
      | .ok text =>
        match Page.read (String.ofList (Text.unifyLineEnds text.toList)) with
        | .error rejection => .error (.markup rejection)
        | .ok page => .ok (.ok page)

def withPage (m : Machine) (file : String) (use : Page → Ending) : Except CommandFault Ending :=
  (m.openPage file).map fun
    | .ok page => use page
    | .error ending => ending

/-! ## Commands on files -/

def shown (selector : Option String) : String :=
  (selector.map Text.quoted).getD Command.missingText

def malformedMessage (selector : Option String) : String :=
  "Invalid selector " ++ shown selector ++ ": malformed"

def locate (m : Machine) (settings : Settings) (selector : Option String) (dialect : Dialect)
    (all : Bool) (page : Page) : Ending :=
  match selector >>= page.root.select? with
  | none => ⟨2, "", lines [malformedMessage selector]⟩
  | some [] => ⟨1, "", lines ["No element matches " ++ shown selector ++ "."]⟩
  | some spots =>
    let base := Target.of page page.root settings.textLimit settings.ancestorDepth m.faults
    let texts := (if all then spots else spots.take 1).map fun s =>
      let f := Target.find { base with spot := s }
      annotate (f.locator.render dialect) f.severity dialect
    ⟨0, lines texts, ""⟩

/-- The number of elements that a text finds, and each of them on a line. -/
def count (m : Machine) (settings : Settings) (text : String) (page : Page) : Ending :=
  let r := resolve text page settings.textLimit m.faults
  let found := r.spots.map fun s => "  " ++ s.describe
  let output := lines ((Nat.repr r.count ++ " match(es)") :: found)
  if r.count = 0 then ⟨1, output, lines [r.understanding.message]⟩ else ⟨0, output, ""⟩

/-! ## Settings -/

def settingLine (s : Settings) (f : Settings.Field) : String :=
  f.key ++ " = " ++ (s.value f).display

/-- One setting is changed and all are saved. A missing value is like an empty one, but it is no
text for a switch. -/
def change (m : Machine) (settings : Settings) (key : String) (value : Option String) :
    Except CommandFault Ending × Machine :=
  match Settings.Field.ofKey? key, value with
  | none, _ => (.ok ⟨2, "", lines ["Unknown setting: " ++ key]⟩, m)
  | some .logToFile, none => (.error .noSwitch, m)
  | some field, value =>
    let changed := settings.set (value.getD "") field
    let (config, fault) := changed.save m.config
    let m := { m with config }
    match fault with
    | some fault => (.ok ⟨1, "", lines [fault.message m.configPath]⟩, m)
    | none => (.ok ⟨0, lines [settingLine changed field], ""⟩, m)

/-! ## Picking -/

/-- Picks are waited for one by one, at most `count` of them; the results in order, until one does
not come. -/
def pickSome (dialect : Option Dialect) :
    (count : Nat) → Picker → Except PickerFault (List Result) × Picker
  | 0, p => (.ok [], p)
  | count + 1, p =>
    match p.arm dialect with
    | (.error fault, p) => (.error fault, p)
    | (.ok _, p) =>
      match p.pump (some 1) with
      | ([], p) => (.ok [], p)
      | (result :: _, p) =>
        let (more, p) := pickSome dialect count p
        (more.map (result :: ·), p)

def pickAt (p : Picker) (url : String) (headless : Bool) (mishaps : Picker.Mishaps)
    (dialect : Option Dialect) (wanted : Option Int) :
    Except CommandFault (List Result) × Picker :=
  match p.launch url headless mishaps, wanted with
  | (.error fault, p), _ => (.error (.picker fault), p)
  | (.ok false, p), _ => (.ok [], p)
  | (.ok true, p), none => (.error .noCount, p)
  | (.ok true, p), some wanted =>
    let (results, p) := pickSome dialect (max wanted 1).toNat p
    (results.mapError .picker, p)

def pick (m : Machine) (settings : Settings) (url : String) (dialect : Option Dialect)
    (wanted : Option Int) (headless : Bool) : Except CommandFault Ending × List Call :=
  let p : Picker := { stage := m.stage, desk := { session := { settings }, faults := m.faults } }
  let (outcome, p) := pickAt p url headless m.mishaps dialect wanted
  let p := p.shutdown
  let ending (results : List Result) : Ending :=
    ⟨if results.isEmpty then 1 else 0, lines (results.map Result.text), lines p.statuses⟩
  (outcome.map ending, p.calls)

/-! ## All commands -/

def logName : String := "locatorpicker.log"

/-- The folder with the settings once a command has begun: with a log file, if the settings ask for
one. -/
def begun (settings : Settings) (config : ConfigFolder) : ConfigFolder :=
  if settings.logToFile then config.touch logName else config

def run (m : Machine) (c : Command) : Outcome :=
  match Settings.load m.config with
  | .error fault => ⟨.error (.settings fault), m, []⟩
  | .ok settings =>
    let m := { m with config := begun settings m.config }
    match c with
    | .synthesize file selector dialect all =>
      ⟨m.withPage file (m.locate settings selector (dialect.getD settings.dialect) all), m, []⟩
    | .verify file text => ⟨m.withPage file (m.count settings text), m, []⟩
    | .pick url dialect wanted headless =>
      let (result, calls) := m.pick settings url dialect wanted headless
      ⟨result, m, calls⟩
    | .showSettings => ⟨.ok ⟨0, lines (Settings.Field.all.map (settingLine settings)), ""⟩, m, []⟩
    | .changeSetting key value =>
      let (ending, m) := m.change settings key value
      ⟨ending, m, []⟩

/-- A command line runs, or ends the program at once. -/
def runLine (m : Machine) (line : List String) : Except Exit Outcome :=
  (Command.read line).map m.run

end Machine
end StableLocator
