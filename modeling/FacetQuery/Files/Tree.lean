import FacetQuery.Files.Path

/-!
Trees of directories and files. A place in a tree is named by the names on the way to it. Main
statements: putting something at a place that a directory has room for leaves it there, and leaves
all that is not below that place as it was. Links, special files and permissions are outside the
model: a name leads to one place only, and every file may be read and replaced.
-/
namespace FacetQuery

/-- What is found at a place. -/
inductive Entry where
  | directory
  | file (bytes : ByteArray)

instance : DecidableEq Entry
  | .directory, .directory => isTrue rfl
  | .directory, .file _ => isFalse nofun
  | .file _, .directory => isFalse nofun
  | .file bytes, .file others =>
    match ByteArray.decEq bytes others with
    | isTrue h => isTrue (congrArg Entry.file h)
    | isFalse h => isFalse fun he => h (Entry.file.inj he)

/-- The names on the way from the root. -/
abbrev Location := List String

/-- Nothing, a file, or a directory with a tree under every name. -/
inductive Tree where
  | nothing
  | file (bytes : ByteArray)
  | directory (child : String → Tree)

namespace Tree

def entry : Tree → Option Entry
  | nothing => none
  | file bytes => some (.file bytes)
  | directory _ => some .directory

/-- A directory without anything in it. -/
def hollow : Tree := directory fun _ => nothing

/-- What a directory has under a name. -/
def child (t : Tree) (name : String) : Tree :=
  match t with
  | directory child => child name
  | _ => nothing

/-- The tree at a place. -/
def subtree (t : Tree) : Location → Tree
  | [] => t
  | name :: place => (t.child name).subtree place

/-- Puts a tree at a place that directories lead to; other places are not there to be filled. -/
def put (new : Tree) : Location → Tree → Tree
  | [], _ => new
  | name :: place, directory child =>
    let inner := put new place (child name)
    directory fun n => if n = name then inner else child n
  | _ :: _, t => t

theorem subtree_nothing (place : Location) : nothing.subtree place = nothing := by
  induction place with
  | nil => rfl
  | cons name place ih => exact ih

theorem subtree_append (t : Tree) (place more : Location) :
    t.subtree (place ++ more) = (t.subtree place).subtree more := by
  induction place generalizing t with
  | nil => rfl
  | cons name place ih => exact ih _

theorem subtree_put_self {t : Tree} {place : Location} {name : String} (new : Tree)
    (h : (t.subtree place).entry = some .directory) :
    (put new (place ++ [name]) t).subtree (place ++ [name]) = new := by
  induction place generalizing t with
  | nil => cases t <;> simp_all [subtree, entry, put, child]
  | cons n place ih =>
    cases t with
    | nothing =>
      rw [subtree_nothing] at h
      cases h
    | file bytes =>
      rw [subtree, child, subtree_nothing] at h
      · cases h
      · simp
    | directory inner => simpa [put, subtree, child] using ih h

theorem entry_subtree_put {t new : Tree} {place other : Location} (h : ¬ place <+: other) :
    ((put new place t).subtree other).entry = (t.subtree other).entry := by
  induction place generalizing t other with
  | nil => exact absurd (List.nil_prefix) h
  | cons name place ih =>
    cases t with
    | nothing => rfl
    | file bytes => rfl
    | directory inner =>
      cases other with
      | nil => rfl
      | cons n other =>
        by_cases hn : n = name
        · subst hn
          have : ¬ place <+: other := fun hp => h ((List.prefix_cons_inj n).2 hp)
          simpa [put, subtree, child] using ih this
        · simp [put, subtree, child, hn]

end Tree

end FacetQuery
