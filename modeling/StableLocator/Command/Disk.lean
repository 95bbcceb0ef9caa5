import StableLocator.Settings.Store

/-!
# Files by path

A disk is a tree of folders and files below the working folder. A path is read part by part; empty
parts and single points do not count. There are folders around the working folder, but nothing is
known of what they hold.

* `Path.parts` and `Path.normal` give the parts of a path and its normal form.
* `Item.readText` reads a file as text, with line ends unified.
* `Item.config` and `Item.putConfig` see one folder as the folder with the settings.
-/

namespace StableLocator

inductive Item
  | file (bytes : List UInt8)
  | folder (items : List (String × Item))
  deriving Repr, Inhabited

namespace Path

def pieces : List Char → List (List Char)
  | [] => [[]]
  | c :: rest => if c = '/' then [] :: pieces rest else Text.joinFirst c (pieces rest)

def parts (path : String) : List String :=
  (pieces path.toList).filterMap fun p =>
    if p.isEmpty ∨ p = ['.'] then none else some (String.ofList p)

/-- The slashes that an absolute path begins with: one, or two that are followed by none. -/
def root (path : String) : String :=
  match path.toList with
  | '/' :: '/' :: '/' :: _ => "/"
  | '/' :: '/' :: _ => "//"
  | '/' :: _ => "/"
  | _ => ""

def partLimit : Nat := 255

def limit : Nat := 4095

/-- A path without parts that do not count. -/
def normal (path : String) : String :=
  let text := root path ++ "/".intercalate (parts path)
  if text = "" then "." else text

end Path

inductive DiskFault
  | missing
  | notFolder
  | isFolder
  | longName
  deriving DecidableEq, Repr

def DiskFault.message (path : String) (fault : DiskFault) : String :=
  let reason := match fault with
    | .missing => "[Errno 2] No such file or directory: "
    | .notFolder => "[Errno 20] Not a directory: "
    | .isFolder => "[Errno 21] Is a directory: "
    | .longName => "[Errno 36] File name too long: "
  reason ++ Text.quoted (Path.normal path)

namespace Item

def absence (name : String) : DiskFault :=
  if Path.partLimit < name.utf8ByteSize then .longName else .missing

/-- The item at the end of a walk; the items that were walked through come innermost first, and no
item stands for a folder around the working folder. -/
def walk : List Item → List String → Except DiskFault Item
  | [], [] => .error .isFolder
  | [], name :: rest => if name = ".." then walk [] rest else .error (absence name)
  | here :: _, [] => .ok here
  | .file _ :: _, _ :: _ => .error .notFolder
  | .folder items :: outer, name :: rest =>
    if name = ".." then walk outer rest
    else
      match items.lookup name with
      | some item => walk (item :: .folder items :: outer) rest
      | none => .error (absence name)

def read (disk : Item) (path : String) : Except DiskFault (List UInt8) :=
  -- An absolute path starts outside the working folder.
  let start := if Path.root path = "" then [disk] else []
  if Path.limit < (Path.normal path).utf8ByteSize then .error .longName
  else
    match walk start (Path.parts path) with
    | .ok (.file bytes) => .ok bytes
    | .ok (.folder _) => .error .isFolder
    | .error fault => .error fault

/-- An item put at a path, with the folders on the way. -/
def put (item : Item) : List String → Item → Item
  | [], _ => item
  | name :: rest, here =>
    let items := match here with
      | .folder items => items
      | .file _ => []
    let inner := put item rest ((items.lookup name).getD (.folder []))
    .folder (items.filter (fun e => e.1 != name) ++ [(name, inner)])

/-- What a folder of the disk holds, as the folder with the settings. -/
def config (disk : Item) (name : String) : ConfigFolder :=
  let entry : String × Item → String × Entry
    | (name, .file bytes) => (name, .file bytes)
    | (name, .folder _) => (name, .folder)
  match walk [disk] [name] with
  | .ok (.folder items) => .entries (items.map entry)
  | .ok (.file _) => .obstructed
  | .error _ => .missing

/-- The disk with the files of a folder put into the folder with the settings. -/
def putConfig (disk : Item) (name : String) (folder : ConfigFolder) : Item :=
  match folder with
  | .entries es =>
    es.foldl (fun disk (entryName, entry) =>
      match entry with
      | .file bytes => put (.file bytes) [name, entryName] disk
      | .folder => disk) disk
  | _ => disk

end Item
end StableLocator
