import FacetQuery.Files.Tree
import FacetQuery.Text.Bytes

/-!
The files that the program sees: a tree whose root is a directory, and the working directory. Every
path is looked up step by step, so that only what lies in directories is found.
-/
namespace FacetQuery

/-- A tree, given by what is under each name in its root, and the path of the working directory,
where relative paths begin. -/
structure Disk where
  child : String → Tree
  here : Path

/-- Why a path cannot be used. Errors of the device are outside the model. -/
inductive FileError where
  | notFound
  | notADirectory
  | isADirectory
  | tooLong
  | holdsNul
  | notText
  deriving DecidableEq, Repr

def FileError.message : FileError → String
  | notFound => "No such file or directory (os error 2)"
  | notADirectory => "Not a directory (os error 20)"
  | isADirectory => "Is a directory (os error 21)"
  | tooLong => "File name too long (os error 36)"
  | holdsNul => "file name contained an unexpected NUL byte"
  | notText => "stream did not contain valid UTF-8"

/-- The place that a name leads to; a dot or an empty name stays, two dots go up. -/
def Location.step (place : Location) (name : List Char) : Location :=
  if Path.isFiller name then place
  else if name = ['.', '.'] then place.dropLast
  else place ++ [String.ofList name]

/-- The way from the root to a place: the names on it with what is there, the last name first. -/
abbrev Trail := List (String × Tree)

def Trail.place (trail : Trail) : Location := (trail.map Prod.fst).reverse

namespace Disk

variable (d : Disk)

def empty : Disk := ⟨fun _ => .nothing, ⟨"/"⟩⟩

/-- The same files, seen from another working directory. -/
def seenFrom (here : Path) : Disk := { d with here }

def tree : Tree := .directory d.child

/-- What is at a place. -/
def entry (place : Location) : Option Entry := (d.tree.subtree place).entry

/-- What is at the end of a trail. -/
def reached (trail : Trail) : Tree :=
  match trail with
  | [] => d.tree
  | (_, t) :: _ => t

/-- The trail that a name leads to, as with places. -/
def step (trail : Trail) (name : List Char) : Trail :=
  if Path.isFiller name then trail
  else if name = ['.', '.'] then trail.tail
  else
    let name := String.ofList name
    (name, (d.reached trail).child name) :: trail

/-- The most bytes that a name may have. -/
def nameLimit : Nat := 255

/-- The most bytes that a path may have. -/
def pathLimit : Nat := 4095

/-- Follows names from a place. Each name is looked for in a directory. -/
def walk (trail : Trail) : List (List Char) → Except FileError Trail
  | [] => .ok trail
  | name :: rest =>
    match (d.reached trail).entry with
    | none => .error .notFound
    | some (.file _) => .error .notADirectory
    | some .directory =>
      if nameLimit < byteLength name then .error .tooLong else walk (d.step trail name) rest

/-- The names that lead from the root to a path, those of the working directory in front of a
relative one. -/
def way (p : Path) : List (List Char) :=
  if p.isAbsolute then p.first :: p.others
  else d.here.first :: d.here.others ++ p.first :: p.others

/-- The way to a path, which need not hold anything itself. -/
def locate (p : Path) : Except FileError Trail :=
  if p.text.toList.contains '\x00' then .error .holdsNul
  else if p.text.isEmpty then .error .notFound
  else if pathLimit < byteLength p.text.toList then .error .tooLong
  else d.walk [] (d.way p)

/-- What is at a path. -/
def stat (p : Path) : Except FileError Entry :=
  match d.locate p with
  | .error e => .error e
  | .ok trail =>
    match (d.reached trail).entry with
    | none => .error .notFound
    | some entry => .ok entry

def pathExists (p : Path) : Bool := (d.stat p).isOk

def isFile (p : Path) : Bool :=
  match d.stat p with
  | .ok (.file _) => true
  | _ => false

/-- The text of a file. -/
def readText (p : Path) : Except FileError String :=
  match d.stat p with
  | .error e => .error e
  | .ok .directory => .error .isADirectory
  | .ok (.file bytes) =>
    match String.fromUTF8? bytes with
    | none => .error .notText
    | some text => .ok text

/-- Puts a tree at a place that directories lead to. -/
def put (place : Location) (new : Tree) : Disk := { d with child := (new.put place d.tree).child }

theorem tree_put {place : Location} (new : Tree) (h : place ≠ []) :
    (d.put place new).tree = new.put place d.tree := by
  cases place with
  | nil => exact absurd rfl h
  | cons name place => rfl

theorem entry_put_self {place : Location} {name : String} (new : Tree)
    (h : d.entry place = some .directory) :
    (d.put (place ++ [name]) new).entry (place ++ [name]) = new.entry := by
  rw [entry, d.tree_put new (by simp), Tree.subtree_put_self new h]

theorem entry_put_of_not_prefix {place other : Location} (new : Tree) (h : ¬ place <+: other) :
    (d.put place new).entry other = d.entry other := by
  have hp : place ≠ [] := by
    rintro rfl
    exact h List.nil_prefix
  rw [entry, d.tree_put new hp, Tree.entry_subtree_put h, entry]

/-- Writes a file, new or in place of an old one, into a directory that exists. A file is written
whole or not at all; one that breaks off half-way, as on a full device, is outside the model. -/
def write (p : Path) (bytes : ByteArray) : Except FileError Disk :=
  match d.locate p with
  | .error e => .error e
  | .ok trail =>
    if (d.reached trail).entry = some .directory then .error .isADirectory
    else .ok (d.put trail.place (.file bytes))

/-- Makes the directories that names lead through. -/
def makeFrom (d : Disk) (place : Location) : List (List Char) → Disk
  | [] => d
  | name :: rest =>
    let next := place.step name
    makeFrom (if (d.entry next).isNone then d.put next .hollow else d) next rest

/-- Makes a directory and those above it, where they are missing. -/
def makeDirectories (p : Path) : Disk := d.makeFrom [] (d.way p)

/-- Takes away what is at a path and below it. -/
def remove (p : Path) : Disk :=
  match d.locate p with
  | .error _ => d
  | .ok trail => d.put trail.place .nothing

/-- The path of a place, without dots and needless slashes. -/
def pathOf (place : Location) : Path := ⟨"/" ++ "/".intercalate place⟩

/-- The path that the system reports for a directory. -/
def realPath (p : Path) : Path :=
  match d.locate p with
  | .ok trail => pathOf trail.place
  | .error _ => p

end Disk

end FacetQuery
