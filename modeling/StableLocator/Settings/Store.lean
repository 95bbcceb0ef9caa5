import StableLocator.Json.Reader
import StableLocator.Settings.Basic
import StableLocator.Text.Utf8

/-!
# Stored settings

Settings are kept in one file of a folder. Saving writes a new file beside it and then puts that in
its place. The system may refuse any step on the way. A new file that was written to its end is taken
away again then; one that was not stays behind.

* `Settings.load` reads the file; where there is none, or none that holds an object, it gives the
  defaults.
* `Settings.save` writes the file, or says why it cannot.
-/

namespace StableLocator

inductive Entry
  | folder
  | file (bytes : List UInt8)
  deriving DecidableEq, Repr

/-- The place where the folder with the settings should be: nothing, a file, or a folder with its
entries. -/
inductive ConfigFolder
  | missing
  | obstructed
  | entries (entries : List (String × Entry))
  deriving DecidableEq, Repr

def configName : String := "config.json"

namespace ConfigFolder

def entry? (folder : ConfigFolder) (name : String) : Option Entry :=
  match folder with
  | entries es => es.lookup name
  | _ => none

def config? (folder : ConfigFolder) : Option (List UInt8) :=
  match folder.entry? configName with
  | some (.file bytes) => some bytes
  | _ => none

def names? : ConfigFolder → Option (List String)
  | entries es => some (es.map Prod.fst)
  | _ => none

def without (name : String) (es : List (String × Entry)) : List (String × Entry) :=
  es.filter fun e => e.1 != name

/-- Entries with one put in, in the place of another one with its name. -/
def put (name : String) (entry : Entry) (es : List (String × Entry)) : List (String × Entry) :=
  without name es ++ [(name, entry)]

/-- The folder with a file of a name; an empty one is made if nothing of that name is there. -/
def touch (name : String) (folder : ConfigFolder) : ConfigFolder :=
  match folder with
  | obstructed => obstructed
  | missing => entries [(name, .file [])]
  | entries es => if (es.lookup name).isSome then folder else entries (put name (.file []) es)

/-- A name for a new file: none of the entries has it. -/
def freshName (es : List (String × Entry)) : String :=
  let length := (es.map fun e => e.1.length).foldr Nat.max 0
  "." ++ configName ++ "." ++ String.ofList (List.replicate length '0') ++ ".tmp"

/-- An entry moved to another name, unless a folder is there. -/
def move? (source target : String) (es : List (String × Entry)) :
    Option (List (String × Entry)) :=
  match es.lookup source, es.lookup target with
  | some _, some .folder => none
  | some entry, _ => some (put target entry (without source es))
  | none, _ => none

end ConfigFolder

namespace Settings

/-! ## Loading -/

inductive LoadFault
  | encoding (error : Text.Utf8Error)
  | longNumeral (error : Number.IntegerError)
  | infinite (error : Json.InfiniteNumber)
  deriving DecidableEq, Repr

def LoadFault.message : LoadFault → String
  | .encoding error => error.message
  | .longNumeral error => error.message
  | .infinite error => error.message

/-- The settings that a text holds; the defaults for a text that holds no object. -/
def ofText (text : String) : Except LoadFault Settings :=
  match Json.read text with
  | .ok (.obj members) => (ofMembers members).mapError .infinite
  | .error (.longNumeral error) => .error (.longNumeral error)
  | _ => .ok {}

/-- The stored settings. -/
def load (folder : ConfigFolder) : Except LoadFault Settings :=
  match folder.config? with
  | none => .ok {}
  | some bytes =>
    match Text.decode bytes with
    | .error error => .error (.encoding error)
    | .ok text => ofText (String.ofList (Text.unifyLineEnds text.toList))

/-! ## Saving -/

/-- What the system says where it refuses a step of saving. Writing may stop after some bytes. -/
structure Refusals where
  makeFolder : Option String := none
  makeFile : Option String := none
  write : Option (Nat × String) := none
  close : Option String := none
  move : Option String := none
  remove : Option String := none
  deriving DecidableEq, Repr

/-- Why settings cannot be saved. -/
inductive SaveFault
  | folderObstructed
  | folderRefused (reason : String)
  | fileObstructed (source : String)
  | fileRefused (reason : String)
  | longInteger (error : Number.LongInteger)
  /-- The new file could not be taken away again. -/
  | notRemoved (reason : String)
  deriving DecidableEq, Repr

/-- The fault is answered with a message; any other one goes through to the caller. -/
def SaveFault.isAnswered : SaveFault → Bool
  | .longInteger _ | .notRemoved _ => false
  | _ => true

/-- The fault in words, for a folder with a path. -/
def SaveFault.message (path : String) : SaveFault → String
  | .folderObstructed =>
    "Could not create config folder: [Errno 17] File exists: " ++ Text.quoted path
  | .folderRefused reason => "Could not create config folder: " ++ reason
  | .fileObstructed source =>
    "Could not write settings: [Errno 21] Is a directory: " ++
      Text.quoted (path ++ "/" ++ source) ++ " -> " ++ Text.quoted (path ++ "/" ++ configName)
  | .fileRefused reason => "Could not write settings: " ++ reason
  | .longInteger error => error.message
  | .notRemoved reason => reason

def text? (s : Settings) : Except Number.LongInteger String := Json.sheet? s.members

end Settings

namespace ConfigFolder

open Settings (Refusals SaveFault)

/-- The entries of the folder, which is made where it is missing. -/
def ensure (refusals : Refusals) : ConfigFolder → Except SaveFault (List (String × Entry))
  | obstructed => .error .folderObstructed
  | missing =>
    match refusals.makeFolder with
    | some reason => .error (.folderRefused reason)
    | none => .ok []
  | entries es => .ok es

/-- The entries after a fault, without the new file. -/
def discard (refusals : Refusals) (name : String) (fault : SaveFault) (es : List (String × Entry)) :
    List (String × Entry) × Option SaveFault :=
  match refusals.remove with
  | some reason => (es, some (.notRemoved reason))
  | none => (without name es, some fault)

/-- A file is written under a new name and moved to the place of the settings. -/
def replaceConfig (refusals : Refusals) (bytes : List UInt8) (es : List (String × Entry)) :
    List (String × Entry) × Option SaveFault :=
  let fresh := freshName es
  let written := put fresh (.file bytes) es
  match refusals.makeFile, refusals.write, refusals.close <|> refusals.move with
  | some reason, _, _ => (es, some (.fileRefused reason))
  -- The name of the new file is kept only once all is written, so nothing takes this one away.
  | none, some (count, reason), _ =>
    (put fresh (.file (bytes.take count)) es, some (.fileRefused reason))
  | none, none, some reason => discard refusals fresh (.fileRefused reason) written
  | none, none, none =>
    match move? fresh configName written with
    | some moved => (moved, none)
    | none => discard refusals fresh (.fileObstructed fresh) written

end ConfigFolder

/-- The folder after saving, and the fault that kept the settings from being saved. -/
def Settings.save (s : Settings) (folder : ConfigFolder) (refusals : Refusals := {}) :
    ConfigFolder × Option SaveFault :=
  match folder.ensure refusals with
  | .error fault => (folder, some fault)
  | .ok es =>
    match s.text? with
    | .error error => (.entries es, some (.longInteger error))
    | .ok text =>
      let (es, fault) := ConfigFolder.replaceConfig refusals (Text.encode text) es
      (.entries es, fault)

end StableLocator
