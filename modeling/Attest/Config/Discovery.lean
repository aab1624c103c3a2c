import Attest.Config.Reading
import Attest.Files.FileSystem
import Attest.Text.Quoted

/-!
# Configuration files

A configuration is loaded from a file that is named, or from the nearest file of the usual name at
or above a directory. A nearest file that cannot be read or understood is an error, whatever lies
further up.
-/

namespace Attest

/-- Why a configuration file could not be loaded. -/
inductive ConfigError where
  | unreadable (path : Path)
  | unparsable (path : Path)
deriving DecidableEq, Repr

namespace ConfigError

/-- The sentence that reports an error. -/
def message : ConfigError → String
  | unreadable path => "Failed to read config file: " ++ Text.quote path.text
  | unparsable path => "Failed to parse config file: " ++ Text.quote path.text

end ConfigError

namespace Config

/-- A configuration with the directory of its file. -/
structure Loaded where
  config : Config
  directory : Path
deriving DecidableEq, Repr

/-- The name of configuration files. -/
def fileName : String := "tryke.yaml"

/-- Reads the file that a path leads to. -/
def read (fs : FileSystem) (path : Path) : Except ConfigError Config :=
  match fs.readText? path with
  | none => .error (.unreadable path)
  | some text =>
    match ofText? text with
    | none => .error (.unparsable path)
    | some config => .ok config

/-- Loads the file that a path leads to, with the directory that the path spells. -/
def load (fs : FileSystem) (path : Path) : Except ConfigError Loaded :=
  let directory := path.parent
  match read fs path with
  | .error error => .error error
  | .ok config => .ok ⟨config, directory⟩

/-- The path of the configuration file of a directory. -/
def fileIn (directory : FileSystem.Location) : Path :=
  FileSystem.Location.path (fileName :: directory)

/-- The path of the nearest configuration file at or above a directory. -/
def nearest? (fs : FileSystem) (directory : FileSystem.Location) : Option Path :=
  if fs.leadsSomewhere (fileIn directory) then some (fileIn directory)
  else match directory with
    | [] => none
    | _ :: outer => nearest? fs outer

/-- Loads the nearest configuration file at or above what a path leads to, if there is any. -/
def discover (fs : FileSystem) (start : Path) : Except ConfigError (Option Loaded) :=
  match fs.resolve? start with
  | none => .ok none
  | some (location, _) =>
    match nearest? fs location with
    | none => .ok none
    | some path =>
      let directory := path.parent
      match read fs path with
      | .error error => .error error
      | .ok config => .ok (some ⟨config, directory⟩)

end Config

end Attest
