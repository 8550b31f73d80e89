/-! Tokens of a query. -/
namespace FacetQuery

inductive TokenKind where
  | operator
  | key
  | value
  | fulltext
  deriving DecidableEq, Repr

def TokenKind.name : TokenKind → String
  | operator => "operator"
  | key => "key"
  | value => "value"
  | fulltext => "fulltext"

/-- A range of bytes of the query; `stop` is the first byte behind it. -/
structure Span where
  start : Nat
  stop : Nat
  deriving DecidableEq, Repr

def Span.render (s : Span) : String := toString s.start ++ ".." ++ toString s.stop

/-- A token: its text without quotation marks, and the bytes it was read from. -/
structure Token where
  kind : TokenKind
  text : String
  span : Span
  deriving DecidableEq, Repr

end FacetQuery
