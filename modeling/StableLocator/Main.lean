import StableLocator.Command.Run

/-!
# The program

The outer layer: it reads the one file that a command is about and the stored settings, runs the
command, stores changed settings, and prints what came of it.
-/

namespace StableLocator
namespace Program

def readFile (path : String) : IO (Except DiskFault (List UInt8)) := do
  try
    let bytes ← IO.FS.readBinFile path
    pure (.ok bytes.toList)
  catch
    | .inappropriateType _ code _ =>
      pure (.error (if code = 21 ∨ code = 0 - 21 then .isFolder else .notFolder))
    | .invalidArgument _ code _ =>
      pure (.error (if code = 36 ∨ code = 0 - 36 then .longName else .missing))
    | _ => pure (.error .missing)

/-- The folder with the settings, as far as it matters. -/
def readConfig (folder : String) : IO ConfigFolder := do
  match ← readFile (folder ++ "/" ++ configName) with
  | .ok bytes => pure (.entries [(configName, .file bytes)])
  | .error .isFolder => pure (.entries [(configName, .folder)])
  | .error .notFolder => pure .obstructed
  | .error _ => pure .missing

def writeConfig (folder : String) (before after : ConfigFolder) : IO Unit := do
  match after.config? with
  | some bytes =>
    if before.config? ≠ some bytes then
      let fresh := folder ++ "/" ++ ConfigFolder.freshName []
      IO.FS.createDirAll folder
      IO.FS.writeBinFile fresh (ByteArray.mk bytes.toArray)
      IO.FS.rename fresh (folder ++ "/" ++ configName)
  | none => pure ()

def openLog (folder : String) (config : ConfigFolder) : IO Unit := do
  match Settings.load config with
  | .ok settings =>
    if Machine.logName ∈ ((Machine.begun settings config).names?.getD []) then
      try
        let _ ← IO.FS.Handle.mk (folder ++ "/" ++ Machine.logName) .append
      catch _ => pure ()
  | .error _ => pure ()

def fileOf : Command → Option String
  | .synthesize file _ _ _ => some file
  | .verify file _ => some file
  | _ => none

/-- A command runs on the files of this computer, which has no browser to pick in. -/
def runCommand (command : Command) : IO UInt32 := do
  let home := (← IO.getEnv "HOME").getD "."
  let folder := home ++ "/.locatorpicker"
  let config ← readConfig folder
  openLog folder config
  let content ← match fileOf command with
    | some file => readFile file
    | none => pure (.error .missing)
  let machine : Machine := {
    files := fun _ _ => content
    config
    configPath := folder
    stage := { snapshot := .null }
    mishaps := { engineMissing := some "there is no browser engine" } }
  let outcome := machine.run command
  writeConfig folder config outcome.machine.config
  match outcome.result with
  | .ok ending =>
    IO.print ending.output
    IO.eprint ending.messages
    pure (UInt32.ofNat ending.status)
  | .error fault =>
    IO.eprintln fault.message
    pure 1

def usage : String :=
  "usage: locatorpicker [-v] synthesize FILE --select SELECTOR [--dialect pytest|js] [--all]\n" ++
  "       locatorpicker [-v] verify FILE EXPRESSION\n" ++
  "       locatorpicker [-v] pick URL [--dialect pytest|js] [--count N] [--headless]\n" ++
  "       locatorpicker [-v] config show\n" ++
  "       locatorpicker [-v] config set KEY VALUE\n"

def run (line : List String) : IO UInt32 := do
  match Command.read line with
  | .ok command => runCommand command
  | .error exit =>
    if exit = .help then IO.print usage else IO.eprint usage
    pure (UInt32.ofNat exit.status)

end Program
end StableLocator

def main (args : List String) : IO UInt32 := StableLocator.Program.run args
