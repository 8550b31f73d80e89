/-! JSON values and their text, with two spaces to a level. -/
namespace FacetQuery

inductive JsonValue where
  | string (text : String)
  | number (value : Nat)
  | array (items : List JsonValue)
  | object (fields : List (String × JsonValue))
  deriving Repr

namespace JsonValue

def lowerHexDigit (n : Nat) : Char :=
  if n < 10 then Char.ofNat ('0'.toNat + n) else Char.ofNat ('a'.toNat + n - 10)

/-- One character of a string. -/
def escape (c : Char) : List Char :=
  if c = '"' then ['\\', '"']
  else if c = '\\' then ['\\', '\\']
  else if c = '\x08' then ['\\', 'b']
  else if c = '\x0c' then ['\\', 'f']
  else if c = '\n' then ['\\', 'n']
  else if c = '\r' then ['\\', 'r']
  else if c = '\t' then ['\\', 't']
  else if c.toNat < 0x20 then
    ['\\', 'u', '0', '0', lowerHexDigit (c.toNat / 16), lowerHexDigit (c.toNat % 16)]
  else [c]

def quoted (text : String) : List Char := '"' :: text.toList.flatMap escape ++ ['"']

/-- The start of a line at a depth. -/
def newLine (depth : Nat) : List Char := '\n' :: List.replicate (2 * depth) ' '

mutual

/-- The text of a value whose first line begins at a depth. -/
def write (depth : Nat) : JsonValue → List Char
  | .string text => quoted text
  | .number value => Nat.toDigits 10 value
  | .array [] => ['[', ']']
  | .array (item :: rest) =>
    '[' :: newLine (depth + 1) ++ write (depth + 1) item ++ writeItems (depth + 1) rest ++
      newLine depth ++ [']']
  | .object [] => ['\x7b', '\x7d']
  | .object ((name, value) :: rest) =>
    '\x7b' :: newLine (depth + 1) ++ quoted name ++ ':' :: ' ' :: write (depth + 1) value ++
      writeFields (depth + 1) rest ++ newLine depth ++ ['\x7d']

/-- The items of an array behind the first. -/
def writeItems (depth : Nat) : List JsonValue → List Char
  | [] => []
  | item :: rest => ',' :: newLine depth ++ write depth item ++ writeItems depth rest

/-- The fields of an object behind the first. -/
def writeFields (depth : Nat) : List (String × JsonValue) → List Char
  | [] => []
  | (name, value) :: rest =>
    ',' :: newLine depth ++ quoted name ++ ':' :: ' ' :: write depth value ++
      writeFields depth rest

end

def render (v : JsonValue) : String := String.ofList (v.write 0)

end JsonValue

end FacetQuery
