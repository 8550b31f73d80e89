import FacetQuery.Query.Formula
import FacetQuery.Query.Token
import FacetQuery.Style

/-! Formulas and token sequences in terminal styles. -/
namespace FacetQuery

open Style

def Operator.styled (o : Operator) : String := red.paint o.symbol

def Literal.styled (l : Literal) : String :=
  (match l.operator with
    | none => ""
    | some o => o.styled) ++
  bold.on ++ cyan.paint l.key ++ ": " ++ dim.paint "[" ++
  (dim.paint ",").intercalate (l.values.map green.paint) ++ dim.paint "]" ++ "\n"

def Formula.styled (f : Formula) : String := String.join (f.literals.map Literal.styled)

/-- The source of a phrase begins with its quote. -/
def isPhrase (lexeme : List Char) : Bool := lexeme.head?.any isQuote

/-- The escape sequence before a token read from `lexeme`; plain terms have none. -/
def TokenKind.style (kind : TokenKind) (lexeme : List Char) : String :=
  match kind with
  | .operator => red.on
  | .key => cyan.on
  | .value => if isPhrase lexeme then magenta.on else green.on
  | .fulltext => if isPhrase lexeme then magenta.on else ""

/-- The characters that no token covers. -/
def styledGap (gap : List Char) : String :=
  if gap.isEmpty then "" else dim.paint (String.ofList gap)

/-- The characters from byte `position` on, each token in its style, part by part. -/
def styledParts (position : Nat) (rest : List Char) : List Token → List String
  | [] => [styledGap rest]
  | t :: tokens =>
    let (gap, fromToken) := splitBytes (t.span.start - position) rest
    let (lexeme, behind) := splitBytes (t.span.stop - t.span.start) fromToken
    styledGap gap :: t.kind.style lexeme :: String.ofList lexeme :: off ::
      styledParts t.span.stop behind tokens

/-- A query with its tokens in their styles. -/
def styledTokens (query : String) (tokens : List Token) : String :=
  String.join (styledParts 0 query.toList tokens)

end FacetQuery
