import FacetQuery.Text.Pieces

/-!
Paths of files. A path is kept as it was written, and read as a sequence of components: repeated
slashes, a slash at the end and single dots behind the first component mean nothing.
-/
namespace FacetQuery

/-- A path as it was written. -/
structure Path where
  text : String
  deriving DecidableEq, Repr

/-- A part of a path that means something. -/
inductive Component where
  | root
  | current
  | parent
  | name (name : List Char)
  deriving DecidableEq, Repr

namespace Path

/-- The pieces between slashes. -/
def segments (cs : List Char) : List (List Char) := pieces '/' cs

/-- The inverse of `segments`. -/
def joinSegments (ss : List (List Char)) : String :=
  String.ofList (['/'].intercalate ss)

/-- A piece behind the first that means nothing. -/
def isFiller (segment : List Char) : Bool := segment = [] || segment = ['.']

/-- The first piece, which is empty in an absolute path. -/
def first (p : Path) : List Char := (segments p.text.toList).headD []

/-- The pieces behind the first slash. -/
def others (p : Path) : List (List Char) := (segments p.text.toList).tail

def isAbsolute (p : Path) : Bool := p.first.isEmpty && !p.others.isEmpty

def component (segment : List Char) : Component :=
  if segment = ['.'] then .current
  else if segment = ['.', '.'] then .parent
  else .name segment

/-- What a path means. Paths with the same components are the same path. -/
def components (p : Path) : List Component :=
  (if p.isAbsolute then [.root] else if p.first.isEmpty then [] else [component p.first]) ++
    (p.others.filter fun s => !isFiller s).map component

def isSame (p q : Path) : Bool := p.components = q.components

/-- The path of the pieces `outer`, innermost first, behind `first`. -/
def ofOuter (first : List Char) (outer : List (List Char)) : Path :=
  match outer.dropWhile isFiller with
  | [] => ⟨if first.isEmpty then "/" else String.ofList first⟩
  | kept => ⟨joinSegments (first :: kept.reverse)⟩

/-- The directories above a path, closest first, given its pieces, innermost first. -/
def above (first : List Char) : List (List Char) → List Path
  | [] => if first.isEmpty then [] else [⟨""⟩]
  | segment :: outer =>
    if isFiller segment then above first outer else ofOuter first outer :: above first outer

/-- The path and all directories above it, closest first. -/
def ancestors (p : Path) : List Path := p :: above p.first p.others.reverse

/-- The directory that the path is in. -/
def parent? (p : Path) : Option Path := (above p.first p.others.reverse).head?

/-- A file in a directory. -/
def child (dir : Path) (name : String) : Path :=
  if dir.text.toList.getLast?.all (· = '/') then ⟨dir.text ++ name⟩
  else ⟨dir.text ++ "/" ++ name⟩

/-- What is left of the pieces of a path behind the components of a directory. -/
def pieceTail : List Component → List (List Char) → Option (List (List Char))
  | [], pieces => some pieces
  | _ :: _, [] => none
  | c :: cs, piece :: pieces =>
    if isFiller piece then pieceTail (c :: cs) pieces
    else if component piece = c then pieceTail cs pieces
    else none

/-- An absolute path as seen from an absolute directory that it lies below. -/
def relativeTo? (p dir : Path) : Option Path :=
  if p.isAbsolute && dir.isAbsolute then
    (pieceTail dir.components.tail p.others).map fun pieces =>
      ⟨joinSegments (((pieces.dropWhile isFiller).reverse.dropWhile isFiller).reverse)⟩
  else none

end Path

end FacetQuery
