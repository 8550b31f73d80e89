import FacetQuery.Config.Settings
import FacetQuery.Files.Path
import FacetQuery.Query.Vocabulary
import FacetQuery.Toml.Writer

/-! Configurations: the settings of several files, merged. -/
namespace FacetQuery

/-- A keyword, the file that declares it, and whether that is the global file. -/
structure Declaration where
  name : String
  source : Path
  isGlobal : Bool
  deriving DecidableEq, Repr

/-- A merged configuration: all declarations and files, closest file first, and the directory of
the closest file. -/
structure Config where
  declarations : List Declaration
  files : List Path
  directory : Option Path
  deriving DecidableEq, Repr

/-- A file that has been read. -/
structure ConfigFile where
  path : Path
  settings : Settings
  deriving DecidableEq, Repr

def configFileName : String := ".sift.toml"

/-- The file of a user, in the home directory. -/
def globalPath (home : Path) : Path := home.child configFileName

def isGlobalPath (home path : Path) : Bool := path.isSame (globalPath home)

def ConfigFile.declarations (home : Path) (f : ConfigFile) : List Declaration :=
  f.settings.keywords.map fun name => ⟨name, f.path, isGlobalPath home f.path⟩

namespace Config

variable (c : Config)

def empty : Config := ⟨[], [], none⟩

/-- Merges files, the closest first. -/
def merge (home : Path) (files : List ConfigFile) : Config where
  declarations := files.flatMap (ConfigFile.declarations home)
  files := files.map ConfigFile.path
  directory := files.head?.bind fun f => f.path.parent?

/-- The declared names, each once, in order of first declaration. -/
def names : List String := (c.declarations.map Declaration.name).eraseDups

/-- The declared names that can occur in a query. -/
def keywords : List String := c.names.filter isMatchable

/-- The configuration as a file of its own. -/
def toToml : String :=
  "[query]\nkeywords = " ++
    String.ofList (Toml.writeStrings (c.names.map String.toList)) ++ "\n"

end Config

end FacetQuery
