import FacetQuery.Query.Formula
import FacetQuery.Query.Scanner

/-! Reading a query: its formula is put together token by token. -/
namespace FacetQuery

/-- The literals so far, and the key and operator that wait for a value. -/
structure Assembly where
  literals : List Literal
  operator : Option Operator
  key : Option String
  deriving DecidableEq, Repr

namespace Assembly

def empty : Assembly := ⟨[], none, none⟩

/-- Takes one token. A value uses up the key and operator that wait for it; a value without a key
is an error. -/
def push (a : Assembly) (t : Token) : Assembly × Option QueryError :=
  match t.kind with
  | .operator => ({ a with operator := Operator.ofSymbol? t.text }, none)
  | .key => ({ a with key := some t.text }, none)
  | .fulltext => ({ a with literals := addTerm ⟨fulltextKey, none, t.text⟩ a.literals }, none)
  | .value =>
    match a.key with
    | none => (a, some ⟨.unpairedValue, some t.span.start, none⟩)
    | some key => (⟨addTerm ⟨key, a.operator, t.text⟩ a.literals, none, none⟩, none)

/-- Takes tokens up to the first error. -/
def pushAll (a : Assembly) : List Token → Except QueryError Assembly
  | [] => .ok a
  | t :: rest =>
    match a.push t with
    | (_, some e) => .error e
    | (next, none) => next.pushAll rest

def finish (a : Assembly) : Formula := ⟨a.literals⟩

end Assembly

/-- The formula of a query. Tokens are taken as they are read, so of two errors the earlier one
is reported. -/
def Vocabulary.parse (v : Vocabulary) (query : String) : Except QueryError Formula :=
  let scan := v.scan query
  match Assembly.empty.pushAll scan.tokens with
  | .error e => .error { e with query := some query }
  | .ok assembly =>
    match scan.failure with
    | some e => .error e
    | none => .ok assembly.finish

end FacetQuery
