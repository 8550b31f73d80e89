import FacetQuery.Text.Bytes
import FacetQuery.Text.Quoted

/-! Errors of queries and keyword lists, and the text that shows them. -/
namespace FacetQuery

/-- What is wrong with a query, a keyword or a token sequence. -/
inductive Fault where
  | unterminatedPhrase (quote : Char)
  | expectedValue (key : String)
  | unexpectedInput (found : Char)
  | invalidKeyword (keyword reason : String)
  | unpairedValue
  deriving DecidableEq, Repr

/-- A fault, where in the query it was found, and the query. -/
structure QueryError where
  fault : Fault
  position : Option Nat
  query : Option String
  deriving DecidableEq, Repr

namespace Fault

def message : Fault → String
  | unterminatedPhrase quote =>
    "unterminated quoted phrase (missing closing " ++ String.singleton quote ++ ")"
  | expectedValue key => "expected ':' and a value after key '" ++ key ++ "'"
  | unexpectedInput found => "unexpected input " ++ quoteChar found
  | invalidKeyword keyword reason => "invalid keyword " ++ quoteText keyword ++ ": " ++ reason
  | unpairedValue => "value without a preceding key"

/-- How the writer of the query may mend it. -/
def suggestion : Fault → Option String
  | unterminatedPhrase quote =>
    if quote = '"' then some "Add a closing quote (\") to complete the phrase"
    else some "Add a closing quote (') to complete the phrase, or drop the apostrophe"
  | expectedValue _ =>
    some "Write the value right after the colon, e.g. 'status:open' or 'status:\"in review\"'"
  | invalidKeyword _ _ =>
    some ("Keywords must be non-empty and cannot contain whitespace or any of " ++
      ". , ' \" + - ! ? :")
  | unexpectedInput _ | unpairedValue => none

/-- The part of the program that a fault is charged to. -/
def area : Fault → String
  | invalidKeyword _ _ => "query configuration error"
  | unpairedValue => "internal query error"
  | unterminatedPhrase _ | expectedValue _ | unexpectedInput _ => "query syntax error"

end Fault

namespace QueryError

variable (e : QueryError)

def message : String := e.fault.message

def suggestion : Option String := e.fault.suggestion

/-- The column of byte `position`: the characters before it. A position behind the end counts as
the end, and so does one inside a character. -/
def column (query : List Char) (position : Nat) : Nat :=
  match splitAtByte? (min position (byteLength query)) query with
  | some (before, _) => before.length
  | none => query.length

def spaces (n : Nat) : String := String.ofList (List.replicate n ' ')

/-- The line with the caret below the query. -/
def caretLine (query : String) (position : Nat) : String :=
  "  " ++ spaces (column query.toList position) ++ "^\n"

/-- The query and, below it, a caret at the position. -/
def excerpt : String :=
  match e.query with
  | none => ""
  | some query =>
    "  " ++ query ++ "\n" ++
      match e.position with
      | none => ""
      | some position => caretLine query position

def hint : String :=
  match e.suggestion with
  | none => ""
  | some text => "hint: " ++ text

/-- The whole text of an error: headline, excerpt of the query, hint. -/
def render : String :=
  e.fault.area ++ ": " ++ e.message ++ "\n" ++ e.excerpt ++ e.hint

end QueryError

end FacetQuery
