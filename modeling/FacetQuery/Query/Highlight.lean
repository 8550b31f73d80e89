import FacetQuery.Query.Cursor
import FacetQuery.Query.Styled

/-!
Highlighting by byte positions. A cursor goes over a query from token to token, and every part is
cut out of the query at the positions of the tokens. Tokens that do not lie in the query one behind
the other, on boundaries of characters, are an error.
-/
namespace FacetQuery

open Style

variable (query : List Char)

/-- The part of a query between two byte positions, dimmed; nothing if the second one is no
later. -/
def dimmedBetween (start stop : Nat) : Except OffBoundary String :=
  if start < stop then
    (textBetween query start stop).map fun text => dim.paint (String.ofList text)
  else .ok ""

/-- The query from the cursor on, each token in its style. -/
def highlightFrom (cursor : Nat) : List Token → Except OffBoundary String
  | [] => dimmedBetween query cursor (byteLength query)
  | t :: tokens => do
    let gap ← dimmedBetween query cursor t.span.start
    let source ← textBetween query t.span.start t.span.stop
    let behind ← highlightFrom t.span.stop tokens
    return gap ++ t.kind.style source ++ String.ofList source ++ off ++ behind

/-- A query with its tokens in their styles. -/
def highlight (query : String) (tokens : List Token) : Except OffBoundary String :=
  highlightFrom query.toList 0 tokens

end FacetQuery
