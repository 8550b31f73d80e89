import FacetQuery.Config.Basic

/-! Warnings about a configuration. -/
namespace FacetQuery

inductive ConfigWarning where
  | noKeywords
  | reserved (source : Path)
  | duplicate (keyword : String) (occurrences : Nat)
  | unmatchable (keyword : String) (source : Path)
  deriving DecidableEq, Repr

namespace ConfigWarning

def message : ConfigWarning → String
  | noKeywords => "no keywords are defined in configuration"
  | reserved source =>
    "'" ++ fulltextKey ++ "' is always recognized and need not be declared (" ++ source.text ++ ")"
  | duplicate keyword occurrences =>
    "keyword '" ++ keyword ++ "' is declared " ++ toString occurrences ++ " times"
  | unmatchable keyword source =>
    "keyword '" ++ keyword ++ "' can never match and is ignored (" ++ source.text ++ ")"

def hint : ConfigWarning → Option String
  | noKeywords => some "add keywords under [query] in .sift.toml"
  | reserved _ => some "remove 'fulltext' from the keyword list"
  | duplicate _ _ => none
  | unmatchable _ _ =>
    some "keywords must be non-empty and contain no whitespace or . , ' \" + - ! ? :"

end ConfigWarning

/-- What is wrong with a declaration on its own. -/
def Declaration.warning? (d : Declaration) : Option ConfigWarning :=
  if d.name = fulltextKey then some (.reserved d.source)
  else if isMatchable d.name then none
  else some (.unmatchable d.name d.source)

namespace Config

variable (c : Config)

def occurrences (name : String) : Nat := (c.declarations.map Declaration.name).count name

def duplicate? (name : String) : Option ConfigWarning :=
  if 1 < c.occurrences name then some (.duplicate name (c.occurrences name)) else none

/-- All warnings: those on single declarations, then repeated names. -/
def warnings : List ConfigWarning :=
  if c.declarations.isEmpty then [.noKeywords]
  else c.declarations.filterMap Declaration.warning? ++ c.names.filterMap c.duplicate?

end Config

end FacetQuery
