import FacetQuery.Text.Lines

/-! Terminal styles. A style is switched on by an escape sequence, which ends in `m`, and all
styles are switched off together. -/
namespace FacetQuery

inductive Style where
  | bold
  | dim
  | red
  | green
  | yellow
  | magenta
  | cyan
  deriving DecidableEq, Repr

namespace Style

def escapeChar : Char := '\x1b'

/-- The parameter of the escape sequence. -/
def parameter : Style → String
  | bold => "1"
  | dim => "2"
  | red => "31"
  | green => "32"
  | yellow => "33"
  | magenta => "35"
  | cyan => "36"

def sequence (parameter : String) : String :=
  String.singleton escapeChar ++ "[" ++ parameter ++ "m"

/-- Switches the style on. -/
def on (style : Style) : String := sequence style.parameter

/-- Switches all styles off. -/
def off : String := sequence "0"

/-- A text in one style. -/
def paint (style : Style) (text : String) : String := style.on ++ text ++ off

/-- What is left of a text without its escape sequences, each from the escape character to the
next `m`; `inside` tells that the text begins within one. -/
def stripFrom (inside : Bool) : List Char → List Char
  | [] => []
  | c :: rest =>
    if inside then stripFrom (c != 'm') rest
    else if c = escapeChar then stripFrom true rest
    else c :: stripFrom false rest

def strip (text : String) : String := String.ofList (stripFrom false text.toList)

end Style

/-- A heading. -/
def subheader (text : String) : String := Style.bold.paint text

/-- A side note. -/
def aside (text : String) : String := Style.dim.paint text

def warningText (text : String) : String := Style.yellow.paint text

/-- Sets every line in by three columns. -/
def indented (text : String) : String :=
  "\n".intercalate ((textLines text).map fun line => "   " ++ line)

end FacetQuery
