/-! The small pieces of TOML text: characters, blanks, comments and ends of lines. -/
namespace FacetQuery.Toml

/-- A reader takes a value from the front of a text and gives back the rest. -/
abbrev Reader (α : Type) := List Char → Option (α × List Char)

/-- A space or a tab, the blanks within a line. -/
def isSpace (c : Char) : Bool := c = ' ' || c = '\t'

def isControl (c : Char) : Bool := c.toNat < 0x20 || c.toNat = 0x7F

/-- A character that comments and quoted strings may hold as it is. -/
def isTextChar (c : Char) : Bool := c = '\t' || !isControl c

/-- A character of an unquoted key. -/
def isBareKeyChar (c : Char) : Bool := c.isAlphanum || c = '_' || c = '-'

def skipSpaces (cs : List Char) : List Char := cs.dropWhile isSpace

/-- The text behind the end of a line that it begins with. -/
def newline? : List Char → Option (List Char)
  | '\n' :: rest => some rest
  | '\r' :: '\n' :: rest => some rest
  | _ => none

def skipComment : List Char → List Char
  | '#' :: rest => rest.dropWhile isTextChar
  | cs => cs

/-- The text behind the rest of a line that holds nothing but blanks and a comment. -/
def endLine (cs : List Char) : Option (List Char) :=
  match skipComment (skipSpaces cs) with
  | [] => some []
  | rest => newline? rest

/-- Passes over blanks, ends of lines and, where `comments` allows them, comments; `inComment`
tells that the text begins within one. -/
def skipFillerFrom (comments inComment : Bool) : List Char → List Char
  | [] => []
  | '\n' :: rest => skipFillerFrom comments false rest
  | '\r' :: '\n' :: rest => skipFillerFrom comments false rest
  | c :: rest =>
    if inComment then
      if isTextChar c then skipFillerFrom comments true rest else c :: rest
    else if isSpace c then skipFillerFrom comments false rest
    else if comments && c = '#' then skipFillerFrom comments true rest
    else c :: rest

/-- Passes over what may stand between the parts of an array or inline table. -/
def skipFiller (cs : List Char) : List Char := skipFillerFrom true false cs

/-- Passes over blanks and ends of lines. -/
def skipBlankLines (cs : List Char) : List Char := skipFillerFrom false false cs

end FacetQuery.Toml
