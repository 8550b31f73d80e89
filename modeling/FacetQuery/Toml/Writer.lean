import FacetQuery.Toml.Lexical

/-!
Writing strings and lists of strings. A string is written in the plainest of four styles that can
hold it as it is; if none can, it is written with escapes.
-/
namespace FacetQuery.Toml

inductive StringStyle where
  | basic
  | literal
  | multilineBasic
  | multilineLiteral
  deriving DecidableEq, Repr

/-- Whether more than two of the same quote stand in a row; `run` of them stand right before. -/
def hasLongRun (quote : Char) (run : Nat) : List Char → Bool
  | [] => false
  | c :: rest =>
    if c = quote then run = 2 || hasLongRun quote (run + 1) rest else hasLongRun quote 0 rest

def fitsBasic (text : List Char) : Bool :=
  text.all fun c => isTextChar c && c != '\\' && c != '"'

def fitsLiteral (text : List Char) : Bool := text.all fun c => isTextChar c && c != '\''

def fitsMultilineBasic (text : List Char) : Bool :=
  (text.all fun c => (c = '\n' || isTextChar c) && c != '\\') && !hasLongRun '"' 0 text

def fitsMultilineLiteral (text : List Char) : Bool :=
  (text.all fun c => c = '\n' || isTextChar c) && !hasLongRun '\'' 0 text

/-- The first style that holds the text as it is, or else the one its escapes are written in. -/
def styleFor (text : List Char) : StringStyle :=
  if fitsBasic text then .basic
  else if fitsLiteral text then .literal
  else if fitsMultilineBasic text then .multilineBasic
  else if fitsMultilineLiteral text then .multilineLiteral
  else if text.contains '\n' then .multilineBasic
  else .basic

def upperHexDigit (n : Nat) : Char :=
  if n < 10 then Char.ofNat ('0'.toNat + n) else Char.ofNat ('A'.toNat + n - 10)

/-- Four upper-case hexadecimal digits. -/
def hex4 (n : Nat) : List Char :=
  [n / 4096 % 16, n / 256 % 16, n / 16 % 16, n % 16].map upperHexDigit

/-- A character of a basic string, the quote apart. -/
def escaped (c : Char) : List Char :=
  if c = '\x08' then ['\\', 'b']
  else if c = '\t' then ['\\', 't']
  else if c = '\n' then ['\\', 'n']
  else if c = '\x0c' then ['\\', 'f']
  else if c = '\r' then ['\\', 'r']
  else if c = '\\' then ['\\', '\\']
  else if isControl c then '\\' :: 'u' :: hex4 c.toNat
  else [c]

def writeBasic : List Char → List Char
  | [] => []
  | c :: rest => (if c = '"' then ['\\', '"'] else escaped c) ++ writeBasic rest

/-- The content of a basic string on several lines: line feeds stay, and of quotes in a row every
third is escaped; `run` unescaped quotes stand right before. -/
def writeMultilineBasic (run : Nat) : List Char → List Char
  | [] => []
  | c :: rest =>
    if c = '"' then
      if run = 2 then '\\' :: '"' :: writeMultilineBasic 0 rest
      else '"' :: writeMultilineBasic (run + 1) rest
    else (if c = '\n' then [c] else escaped c) ++ writeMultilineBasic 0 rest

/-- A text with line feeds starts on a line of its own, behind the opening quotes. -/
def openingNewline (text : List Char) : List Char := if text.contains '\n' then ['\n'] else []

def tripled (quote : Char) : List Char := [quote, quote, quote]

/-- A string between its quotes. -/
def writeString (text : List Char) : List Char :=
  match styleFor text with
  | .basic => '"' :: writeBasic text ++ ['"']
  | .literal => '\'' :: text ++ ['\'']
  | .multilineBasic =>
    tripled '"' ++ openingNewline text ++ writeMultilineBasic 0 text ++ tripled '"'
  | .multilineLiteral => tripled '\'' ++ openingNewline text ++ text ++ tripled '\''

/-- A list of strings: two or more stand on lines of their own. -/
def writeStrings : List (List Char) → List Char
  | [] => ['[', ']']
  | [text] => '[' :: writeString text ++ [']']
  | texts =>
    "[\n".toList ++
      texts.flatMap (fun text => "    ".toList ++ writeString text ++ [',', '\n']) ++ [']']

end FacetQuery.Toml
