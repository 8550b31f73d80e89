import FacetQuery.Toml.Number

/-!
Values, and tables as they grow while a document is read. How a table came about decides how it
may be added to.
-/
namespace FacetQuery.Toml

/-- How a table came about: by a header of its own, by the header of a table within it, by a
dotted key, or written inline. -/
inductive Origin where
  | header
  | implied
  | dotted
  | inline
  deriving DecidableEq, Repr

/-- A value. An array of tables keeps its last table apart, since headers add to that one. -/
inductive Value where
  | string (text : String)
  | number (number : Number)
  | boolean (value : Bool)
  | dateTime (value : DateTime)
  | array (items : List Value)
  | table (origin : Origin) (entries : List (String × Value))
  | tables (earlier : List (List (String × Value))) (last : List (String × Value))
  deriving Repr

abbrev Entries := List (String × Value)

/-- Puts a value in the place of the one of the same key. -/
def Entries.replace (key : String) (value : Value) : Entries → Entries
  | [] => []
  | (k, v) :: rest => if k = key then (k, value) :: rest else (k, v) :: replace key value rest

/-- Changes the table at the end of a path. Tables missing on the way are made, by a dotted key or
implied by a header. Inline tables are closed, and a dotted key does not pass through a table that
has a header. -/
def Entries.change (dotted : Bool) (f : Origin → Entries → Option Entries) :
    List String → Origin → Entries → Option Entries
  | [], origin, entries => f origin entries
  | key :: path, _, entries =>
    match entries.lookup key with
    | none =>
      let origin : Origin := if dotted then .dotted else .implied
      (change dotted f path origin []).map fun inner => entries ++ [(key, .table origin inner)]
    | some (.table origin inner) =>
      if origin = .inline ∨ (dotted = true ∧ origin = .header) then none
      else
        (change dotted f path origin inner).map fun inner =>
          entries.replace key (.table origin inner)
    | some (.tables earlier last) =>
      (change dotted f path .header last).map fun last =>
        entries.replace key (.tables earlier last)
    | some _ => none

/-- Gives a new key a value, in the table of the dotted path before it. -/
def Entries.assign (path : List String) (key : String) (value : Value) (entries : Entries) :
    Option Entries :=
  entries.change true
    (fun origin inner =>
      if path ≠ [] ∧ origin ≠ .dotted then none
      else if (inner.lookup key).isSome then none
      else some (inner ++ [(key, value)]))
    path .header

/-- Opens the table of a header, which must be new or only implied so far. -/
def Entries.openTable (path : List String) (key : String) (entries : Entries) : Option Entries :=
  entries.change false
    (fun _ inner =>
      match inner.lookup key with
      | none => some (inner ++ [(key, .table .header [])])
      | some (.table .implied content) => some (inner.replace key (.table .header content))
      | some _ => none)
    path .header

/-- Adds a table to an array of tables. -/
def Entries.openElement (path : List String) (key : String) (entries : Entries) :
    Option Entries :=
  entries.change false
    (fun _ inner =>
      match inner.lookup key with
      | none => some (inner ++ [(key, .tables [] [])])
      | some (.tables earlier last) => some (inner.replace key (.tables (earlier ++ [last]) []))
      | some _ => none)
    path .header

mutual

/-- Whether all numbers of a value can be held. -/
def Value.isRepresentable : Value → Bool
  | .number n => n.isRepresentable
  | .array items => allRepresentable items
  | .table _ entries => entriesRepresentable entries
  | .tables earlier last => tablesRepresentable earlier && entriesRepresentable last
  | .string _ | .boolean _ | .dateTime _ => true

def allRepresentable : List Value → Bool
  | [] => true
  | v :: rest => v.isRepresentable && allRepresentable rest

def entriesRepresentable : List (String × Value) → Bool
  | [] => true
  | (_, v) :: rest => v.isRepresentable && entriesRepresentable rest

def tablesRepresentable : List (List (String × Value)) → Bool
  | [] => true
  | entries :: rest => entriesRepresentable entries && tablesRepresentable rest

end

end FacetQuery.Toml
