import FacetQuery.Query.Vocabulary

/-! Formulas: the values that a query asks for, grouped by key and operator. -/
namespace FacetQuery

inductive Operator where
  | negate
  deriving DecidableEq, Repr

namespace Operator

def symbol : Operator → String
  | negate => "-"

def ofSymbol? (text : String) : Option Operator := if text = "-" then some negate else none

end Operator

/-- The symbol of an operator; nothing where there is none. -/
def operatorText : Option Operator → String
  | none => ""
  | some operator => operator.symbol

/-- One value asked for: its key, its operator if any, and the value. -/
structure Term where
  key : String
  operator : Option Operator
  value : String
  deriving DecidableEq, Repr

/-- The values asked for under one key and operator, in order. -/
structure Literal where
  key : String
  operator : Option Operator
  values : List String
  deriving DecidableEq, Repr

namespace Literal

variable (l : Literal)

/-- The literal of this key and operator. -/
def isGroup (key : String) (operator : Option Operator) : Bool :=
  l.key = key && l.operator = operator

def isNegated : Bool := l.operator = some .negate

def render : String :=
  operatorText l.operator ++ l.key ++ ": [" ++ ",".intercalate l.values ++ "]"

end Literal

/-- What a query asks for, its literals in order of first occurrence. -/
structure Formula where
  literals : List Literal
  deriving DecidableEq, Repr

/-- Adds a value to the literal of its group, or a new literal at the end. -/
def addTerm (t : Term) : List Literal → List Literal
  | [] => [⟨t.key, t.operator, [t.value]⟩]
  | l :: rest =>
    if l.isGroup t.key t.operator then { l with values := l.values ++ [t.value] } :: rest
    else l :: addTerm t rest

namespace Formula

variable (f : Formula)

def empty : Formula := ⟨[]⟩

def add (t : Term) : Formula := ⟨addTerm t f.literals⟩

def get? (key : String) (operator : Option Operator) : Option Literal :=
  f.literals.find? fun l => l.isGroup key operator

/-- The values of the fulltext literal that is not negated. -/
def fulltext : List String :=
  match f.get? fulltextKey none with
  | some l => l.values
  | none => []

def size : Nat := f.literals.length

def isEmpty : Bool := f.literals.isEmpty

/-- One literal a line. -/
def render : String := String.join (f.literals.map fun l => l.render ++ "\n")

end Formula

end FacetQuery
