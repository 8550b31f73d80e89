import FacetQuery.Config.Basic
import FacetQuery.Files.Disk

/-! Finding the configuration files of a directory and loading them. -/
namespace FacetQuery

/-- Why a configuration cannot be loaded. -/
inductive ConfigError where
  | unreadable (path : Path) (cause : FileError)
  | invalid (path : Path) (cause : SettingsError)
  deriving DecidableEq, Repr

/-- An error as it is told, given what the reader of documents says to a text that it refuses. -/
def ConfigError.message (explain : String → String) : ConfigError → String
  | unreadable path cause => "failed to read config file " ++ path.text ++ ": " ++ cause.message
  | invalid path cause =>
    "failed to parse config file " ++ path.text ++ ": " ++ explain cause.document

@[simp] theorem ConfigError.message_invalid (explain : String → String) (path : Path)
    (cause : SettingsError) : (invalid path cause).message explain =
      "failed to parse config file " ++ path.text ++ ": " ++ explain cause.document := rfl

def readSettings (path : Path) (text : String) : Except ConfigError Settings :=
  match Settings.read text with
  | .error cause => .error (.invalid path cause)
  | .ok settings => .ok settings

/-- The files found from a directory upwards; `stopped` tells that a root file ended the search. -/
structure Discovery where
  files : List Path
  stopped : Bool
  deriving DecidableEq, Repr

namespace Disk

variable (d : Disk)

def readConfig (path : Path) : Except ConfigError ConfigFile :=
  match d.readText path with
  | .error cause => .error (.unreadable path cause)
  | .ok text =>
    match readSettings path text with
    | .error e => .error e
    | .ok settings => .ok ⟨path, settings⟩

/-- A root file is one that can be read and says that it is one. -/
def isRootConfig (path : Path) : Bool :=
  match d.readConfig path with
  | .ok file => file.settings.root = some true
  | .error _ => false

/-- The files among candidates, up to the first root file. -/
def search : List Path → Discovery
  | [] => ⟨[], false⟩
  | path :: rest =>
    if d.isFile path then
      if d.isRootConfig path then ⟨[path], true⟩
      else
        let found := search rest
        ⟨path :: found.files, found.stopped⟩
    else search rest

/-- The configuration files of a directory: those in it and above it, closest first, up to a root
file, and behind them the global file unless a root file was found. -/
def discover (home dir : Path) : Discovery :=
  let found := d.search (dir.ancestors.map fun p => p.child configFileName)
  let globalFile := globalPath home
  if !found.stopped && d.isFile globalFile && !found.files.any globalFile.isSame then
    ⟨found.files ++ [globalFile], false⟩
  else found

/-- Loads files, the closest first; the first that fails is the error. -/
def loadFiles (home : Path) (paths : List Path) : Except ConfigError Config :=
  match paths.mapM d.readConfig with
  | .error e => .error e
  | .ok files => .ok (Config.merge home files)

/-- The configuration of a directory. -/
def load (home dir : Path) : Except ConfigError Config :=
  d.loadFiles home (d.discover home dir).files

end Disk

end FacetQuery
