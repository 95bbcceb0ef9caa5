import StableLocator.Settings.Store

/-!
# Changes from outside

Other programs work on the folder with the settings too. They write the file with the settings, or
put something else in the place of the file or of the folder. What is in their way is left alone.

* `ConfigFolder.writeConfig` writes the file.
* `ConfigFolder.blockConfig` makes a folder of its name, `ConfigFolder.block` a file in the place of
  the folder.
-/

namespace StableLocator
namespace ConfigFolder

inductive Obstacle
  /-- A file in the place of the folder, where the folder is to be made. -/
  | fileForFolder
  /-- A file in the place of the folder, where something in the folder is to be made. -/
  | noFolder
  /-- The folder, where a file is to be in its place. -/
  | folder
  /-- A folder in the place of the file with the settings. -/
  | folderForConfig
  /-- Something of the name of the file with the settings. -/
  | config
  deriving DecidableEq, Repr

/-- What is in the way, in words, for a folder with a path. -/
def Obstacle.message (path : String) : Obstacle → String
  | fileForFolder => "[Errno 17] File exists: " ++ Text.quoted path
  | noFolder => "[Errno 20] Not a directory: " ++ Text.quoted (path ++ "/" ++ configName)
  | folder => "[Errno 21] Is a directory: " ++ Text.quoted path
  | folderForConfig => "[Errno 21] Is a directory: " ++ Text.quoted (path ++ "/" ++ configName)
  | config => "[Errno 17] File exists: " ++ Text.quoted (path ++ "/" ++ configName)

def writeConfig (bytes : List UInt8) (f : ConfigFolder) : Except Obstacle ConfigFolder :=
  match f, f.entry? configName with
  | obstructed, _ => .error .fileForFolder
  | _, some .folder => .error .folderForConfig
  | missing, _ => .ok (entries [(configName, .file bytes)])
  | entries es, _ => .ok (entries (put configName (.file bytes) es))

/-- The folder with a folder in the place of the file with the settings. -/
def blockConfig (f : ConfigFolder) : Except Obstacle ConfigFolder :=
  match f, f.entry? configName with
  | obstructed, _ => .error .noFolder
  | _, some _ => .error .config
  | missing, none => .ok (entries [(configName, .folder)])
  | entries es, none => .ok (entries (put configName .folder es))

/-- A file in the place of the folder. -/
def block (f : ConfigFolder) : Except Obstacle ConfigFolder :=
  match f with
  | entries _ => .error .folder
  | _ => .ok obstructed

end ConfigFolder
end StableLocator
