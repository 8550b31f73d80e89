import FacetQuery.Toml.Document

/-! Settings: what one configuration file says. -/
namespace FacetQuery

open Toml

/-- The section on queries. -/
structure QuerySettings where
  keywords : Option (List String)
  deriving DecidableEq, Repr

/-- The settings of one file, each of which may be left out. -/
structure Settings where
  root : Option Bool
  query : Option QuerySettings
  deriving DecidableEq, Repr

/-- A text that is no configuration. What is wrong with it is for the reader of documents to
explain, who is given the whole text. -/
structure SettingsError where
  document : String
  deriving DecidableEq, Repr

namespace Settings

/-- The keywords of a file, none where the setting is left out. -/
def keywords (s : Settings) : List String :=
  match s.query with
  | some ⟨some names⟩ => names
  | _ => []

def readRoot : Option Value → Option (Option Bool)
  | none => some none
  | some (.boolean b) => some (some b)
  | some _ => none

def readName : Value → Option String
  | .string name => some name
  | _ => none

/-- One name, or a list of names. -/
def readNames : Value → Option (List String)
  | .string name => some [name]
  | .array items => items.mapM readName
  | _ => none

/-- All entries but those of the given keys are without meaning, but must be representable. -/
def othersRepresentable (known : List String) (entries : Entries) : Bool :=
  entriesRepresentable (entries.filter fun e => !known.contains e.1)

/-- The keywords of a query section, if it sets them. -/
def readSection (entries : Entries) : Option QuerySettings :=
  if othersRepresentable ["keywords"] entries then
    match entries.lookup "keywords" with
    | none => some ⟨none⟩
    | some v => (readNames v).map fun names => ⟨some names⟩
  else none

/-- A query section is a table. An array gives its settings by position, so that its first item,
if any, is the keywords; a date-time counts as a table without settings. -/
def readQuery : Option Value → Option (Option QuerySettings)
  | none => some none
  | some (.table _ entries) => (readSection entries).map some
  | some (.array []) => some (some ⟨none⟩)
  | some (.array (v :: _)) => (readNames v).map fun names => some ⟨some names⟩
  | some (.dateTime _) => some (some ⟨none⟩)
  | some _ => none

def ofEntries (entries : Entries) : Option Settings := do
  guard (othersRepresentable ["root", "query"] entries)
  let root ← readRoot (entries.lookup "root")
  let query ← readQuery (entries.lookup "query")
  pure ⟨root, query⟩

/-- The settings that a text holds. -/
def read (text : String) : Except SettingsError Settings :=
  match (readDocument text).bind ofEntries with
  | none => .error ⟨text⟩
  | some settings => .ok settings

end Settings

end FacetQuery
