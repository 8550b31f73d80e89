import FacetQuery.Toml.Value

/-!
Reading documents. A document is a sequence of lines, each of which is blank, opens a table, or
gives a key a value; the lines are read first and then carried out in order.
-/
namespace FacetQuery.Toml

/-- How deep arrays and inline tables may be nested, and how long a dotted key may be. -/
def nestingLimit : Nat := 80

/-- A key without dots. -/
def simpleKey (cs : List Char) : Option (String × List Char) :=
  match cs with
  | [] => none
  | c :: rest =>
    if c = '"' then (basicString rest).map fun (text, end') => (String.ofList text, end')
    else if c = '\'' then (literalString rest).map fun (text, end') => (String.ofList text, end')
    else
      let bare := cs.takeWhile isBareKeyChar
      if bare.isEmpty then none else some (String.ofList bare, cs.drop bare.length)

/-- A key with dots between its parts: the parts but the last, and the last. -/
def dottedKey (cs : List Char) : Option ((List String × String) × List Char) :=
  match simpleKey cs with
  | none => none
  | some (key, rest) =>
    match skipSpaces rest with
    | '.' :: more =>
      let next := skipSpaces more
      if next.length < cs.length then
        (dottedKey next).map fun ((path, last), end') => ((key :: path, last), end')
      else none
    | _ => some (([], key), rest)
termination_by cs.length

/-- A dotted key of admissible length. -/
def keyPath (cs : List Char) : Option ((List String × String) × List Char) :=
  (dottedKey cs).filter fun ((path, _), _) => path.length < nestingLimit

/-- A character of a value without quotes or brackets. -/
def isAtomChar (c : Char) : Bool := c.isAlphanum || "+-._:".toList.contains c

/-- A value without quotes or brackets, given by its characters. -/
def atomValue (atom : List Char) : Option Value :=
  if atom = "true".toList then some (.boolean true)
  else if atom = "false".toList then some (.boolean false)
  else
    match Number.read atom with
    | some n => some (.number n)
    | none => (DateTime.read atom).map .dateTime

/-- The time that follows a date behind a single space. -/
def spacedTime (atom rest : List Char) : List Char :=
  match Date.read atom, rest with
  | some (_, []), ' ' :: c :: more =>
    if c.isDigit then ' ' :: (c :: more).takeWhile isAtomChar else []
  | _, _ => []

/-- A value that is neither an array nor a table. -/
def scalar (cs : List Char) : Option (Value × List Char) :=
  match stringValue cs with
  | some (text, rest) => some (.string (String.ofList text), rest)
  | none =>
    let atom := cs.takeWhile isAtomChar
    let rest := cs.drop atom.length
    let time := spacedTime atom rest
    (atomValue (atom ++ time)).map (·, rest.drop time.length)

/-- The rest of an array whose items `item` reads. -/
def arrayItems (item : Reader Value) (cs : List Char) : Option (List Value × List Char) :=
  match skipFiller cs with
  | ']' :: rest => some ([], rest)
  | start =>
    match item start with
    | none => none
    | some (v, rest) =>
      match skipFiller rest with
      | ']' :: rest => some ([v], rest)
      | ',' :: rest =>
        if rest.length < cs.length then
          (arrayItems item rest).map fun (items, end') => (v :: items, end')
        else none
      | _ => none
termination_by cs.length

/-- A key, an equals sign and a value; `skip` passes over what may stand around the sign. -/
def keyValue (skip : List Char → List Char) (item : Reader Value) (cs : List Char) :
    Option (((List String × String) × Value) × List Char) :=
  match keyPath cs with
  | none => none
  | some (key, rest) =>
    match skip rest with
    | '=' :: rest => (item (skip rest)).map fun (v, end') => ((key, v), end')
    | _ => none

/-- The rest of an inline table, with the entries so far. Lines may end anywhere between its keys,
signs and values. -/
def inlineEntries (item : Reader Value) (entries : Entries) (cs : List Char) :
    Option (Entries × List Char) :=
  match skipFiller cs with
  | '\x7d' :: rest => some (entries, rest)
  | start =>
    match keyValue skipFiller item start with
    | none => none
    | some (((path, key), v), rest) =>
      match entries.assign path key v with
      | none => none
      | some entries =>
        match skipFiller rest with
        | '\x7d' :: rest => some (entries, rest)
        | ',' :: rest =>
          if rest.length < cs.length then inlineEntries item entries rest else none
        | _ => none
termination_by cs.length

/-- A value in which at most `room` arrays and inline tables are nested. -/
def value : Nat → Reader Value
  | 0, cs => scalar cs
  | room + 1, cs =>
    match cs with
    | '[' :: rest => (arrayItems (value room) rest).map fun (items, end') => (.array items, end')
    | '\x7b' :: rest =>
      (inlineEntries (value room) [] rest).map fun (entries, end') =>
        (.table .inline entries, end')
    | _ => scalar cs

/-- What a line of a document says. -/
inductive Statement where
  | assign (path : List String) (key : String) (value : Value)
  | openTable (path : List String) (key : String)
  | openElement (path : List String) (key : String)
  deriving Repr

/-- A header behind its opening brackets; `close` is what ends it. -/
def header (close : List Char) (cs : List Char) :
    Option ((List String × String) × List Char) := do
  let (key, rest) ← keyPath (skipSpaces cs)
  let rest := skipSpaces rest
  guard (close.isPrefixOf rest)
  pure (key, rest.drop close.length)

def statement (cs : List Char) : Option (Statement × List Char) :=
  match cs with
  | '[' :: '[' :: rest =>
    (header [']', ']'] rest).map fun ((path, key), end') => (.openElement path key, end')
  | '[' :: rest =>
    (header [']'] rest).map fun ((path, key), end') => (.openTable path key, end')
  | _ =>
    (keyValue skipSpaces (value nestingLimit) cs).map fun (((path, key), v), end') =>
      (.assign path key v, end')

/-- One line: its statement, if it has one, and the lines behind it. -/
def line (cs : List Char) : Option (Option Statement × List Char) :=
  match endLine cs with
  | some rest => some (none, rest)
  | none => do
    let (s, rest) ← statement (skipSpaces cs)
    let rest ← endLine rest
    pure (some s, rest)

/-- The statements of all lines. -/
def statements (cs : List Char) : Option (List Statement) :=
  if cs.isEmpty then some []
  else
    match line cs with
    | none => none
    | some (s, rest) =>
      if rest.length < cs.length then (statements rest).map (s.toList ++ ·) else none
termination_by cs.length

/-- A document part way through: the outermost table, and the path of the table that keys without
a header of their own go to. -/
structure Draft where
  entries : Entries
  current : List String
  deriving Repr

/-- Carries out a statement; none if it defines something twice. -/
def Draft.apply (d : Draft) : Statement → Option Draft
  | .assign path key v =>
    (d.entries.change false (fun _ inner => inner.assign path key v) d.current .header).map
      fun entries => { d with entries }
  | .openTable path key =>
    (d.entries.openTable path key).map fun entries => ⟨entries, path ++ [key]⟩
  | .openElement path key =>
    (d.entries.openElement path key).map fun entries => ⟨entries, path ++ [key]⟩

/-- The outermost table that statements build up. -/
def build (ss : List Statement) : Option Entries :=
  (ss.foldlM Draft.apply ⟨[], []⟩).map Draft.entries

/-- A byte order mark in front of a text is no part of it. -/
def dropByteOrderMark : List Char → List Char
  | '\ufeff' :: rest => rest
  | cs => cs

/-- The outermost table of a document. -/
def readDocument (text : String) : Option Entries :=
  (statements (dropByteOrderMark text.toList)).bind build

end FacetQuery.Toml
