import FacetQuery.Text.Hidden

/-! Quoted text for messages: what a reader could not see is written as an escape. -/
namespace FacetQuery

/-- A character by its number, in lower case and without leading zeros. -/
def numbered (c : Char) : List Char :=
  "\\u\x7b".toList ++ Nat.toDigits 16 c.toNat ++ ['\x7d']

/-- One character between two quotation marks; only the mark in use needs an escape. -/
def escapeIn (mark c : Char) : List Char :=
  if c = '\x00' then ['\\', '0']
  else if c = '\t' then ['\\', 't']
  else if c = '\r' then ['\\', 'r']
  else if c = '\n' then ['\\', 'n']
  else if c = '\\' || c = mark then ['\\', c]
  else if isHidden c then numbered c
  else [c]

/-- A text between double quotes. -/
def quoteText (text : String) : String :=
  "\"" ++ String.ofList (text.toList.flatMap (escapeIn '"')) ++ "\""

/-- A character between single quotes. -/
def quoteChar (c : Char) : String := "'" ++ String.ofList (escapeIn '\'' c) ++ "'"

/-- Items already written, as a bracketed list. -/
def bracketed (items : List String) : String := "[" ++ ", ".intercalate items ++ "]"

end FacetQuery
