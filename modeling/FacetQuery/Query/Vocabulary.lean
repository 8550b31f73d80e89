import FacetQuery.Query.Fault
import FacetQuery.Query.Separator

/-! Vocabularies: the words that a query may use as keys. -/
namespace FacetQuery

/-- The key of bare words, which every vocabulary has. -/
def fulltextKey : String := "fulltext"

/-- The keys that queries may use, in order of declaration. -/
structure Vocabulary where
  keys : List String
  deriving DecidableEq, Repr

/-- A name that can stand as a whole word of a query. -/
def isMatchable (name : String) : Bool :=
  !name.toList.isEmpty && !name.toList.any isSeparator

/-- Why a keyword cannot be used, if so. -/
def keywordFault (keyword : String) : Option Fault :=
  if keyword.toList.isEmpty then some (.invalidKeyword keyword "keyword is empty")
  else
    match keyword.toList.find? isSeparator with
    | some c => some (.invalidKeyword keyword ("contains separator " ++ quoteChar c))
    | none => none

/-- A byte position inside a character. -/
structure OffBoundary where
  position : Nat
  deriving DecidableEq, Repr

namespace Vocabulary

/-- The vocabulary without declared keys. -/
def bare : Vocabulary := ⟨[fulltextKey]⟩

instance : Inhabited Vocabulary := ⟨bare⟩

/-- The distinct keywords in order of first occurrence, followed by the fulltext key unless it is
among them. -/
def ofValid (keywords : List String) : Vocabulary :=
  let keys := keywords.eraseDups
  ⟨if keys.contains fulltextKey then keys else keys ++ [fulltextKey]⟩

/-- The vocabulary of a list of keywords. The first keyword that no query could contain as a word is
an error. -/
def ofKeywords (keywords : List String) : Except QueryError Vocabulary :=
  match keywords.findSome? keywordFault with
  | some fault => .error ⟨fault, none, none⟩
  | none => .ok (ofValid keywords)

def isKey (v : Vocabulary) (word : String) : Bool := v.keys.contains word

/-- The key that a text begins with as a whole word. -/
def leadingKey? (v : Vocabulary) (cs : List Char) : Option String :=
  let word := leadingWord cs
  if !word.isEmpty && v.isKey (String.ofList word) then some (String.ofList word) else none

/-- The key that begins right behind the character `last` as a whole word. -/
def keyBehind? (v : Vocabulary) (last : Option Char) (after : List Char) : Option String :=
  if opensWord last then v.leadingKey? after else none

/-- A key begins with a character that is no separator. -/
theorem isWordChar_of_keyBehind {v : Vocabulary} {last : Option Char} {c : Char} {cs : List Char}
    {key : String} (h : v.keyBehind? last (c :: cs) = some key) : isWordChar c = true := by
  cases hc : isWordChar c with
  | true => rfl
  | false => simp [keyBehind?, leadingKey?, leadingWord, hc] at h

/-- The key that starts at a byte position of the input. -/
def keyAt (v : Vocabulary) (input : String) (position : Nat) : Except OffBoundary (Option String) :=
  if byteLength input.toList ≤ position then .ok none
  else
    match splitAtByte? position input.toList with
    | none => .error ⟨position⟩
    | some (before, after) => .ok (v.keyBehind? before.getLast? after)

end Vocabulary

end FacetQuery
