import FacetQuery.Text.Columns
import FacetQuery.Text.Pieces

/-! Tables in box-drawing characters, each column as wide as its widest line. -/
namespace FacetQuery

/-- The lines of a cell. -/
abbrev Cell := List (List Char)

def Cell.ofText (text : String) : Cell := pieces '\n' text.toList

def Cell.width (cell : Cell) : Nat := (cell.map columns).foldl max 0

/-- The characters of a rule: its ends, what it is drawn with, and what stands where it meets a
column. -/
structure Rule where
  left : String
  fill : Char
  cross : String
  right : String

/-- One line of text with bars around and between its cells. -/
def Rule.row (rule : Rule) (cells : List (List Char)) : String :=
  rule.left ++ rule.cross.intercalate (cells.map String.ofList) ++ rule.right ++ "\n"

/-- A rule over columns of the given widths. -/
def Rule.draw (rule : Rule) (widths : List Nat) : String :=
  rule.row (widths.map fun width => List.replicate (width + 2) rule.fill)

def Rule.top : Rule := ⟨"┌", '─', "┬", "┐"⟩
def Rule.belowHeader : Rule := ⟨"╞", '═', "╪", "╡"⟩
def Rule.bottom : Rule := ⟨"└", '─', "┴", "┘"⟩
def Rule.bars : Rule := ⟨"│", ' ', "┆", "│"⟩

/-- A line of a cell, with a blank on each side. -/
def padded (width : Nat) (line : List Char) : List Char :=
  ' ' :: line ++ List.replicate (width - columns line + 1) ' '

/-- The `i`th line of a row; cells with fewer lines are blank there. -/
def rowLine (widths : List Nat) (cells : List Cell) (i : Nat) : String :=
  Rule.bars.row (List.zipWith (fun width cell => padded width (cell[i]?.getD [])) widths cells)

/-- A row, as high as its highest cell. -/
def tableRow (widths : List Nat) (cells : List Cell) : String :=
  let height := (cells.map List.length).foldl max 0
  String.join ((List.range height).map (rowLine widths cells))

/-- The width of each column over all rows. -/
def columnWidths (rows : List (List Cell)) : List Nat :=
  rows.foldl (fun widths row => List.zipWith max widths (row.map Cell.width))
    ((rows.headD []).map Cell.width)

/-- A table with a header. -/
def table (header : List String) (rows : List (List String)) : String :=
  let headerCells := header.map Cell.ofText
  let rowCells := rows.map (·.map Cell.ofText)
  let widths := columnWidths (headerCells :: rowCells)
  Rule.top.draw widths ++ tableRow widths headerCells ++ Rule.belowHeader.draw widths ++
    String.join (rowCells.map (tableRow widths)) ++ Rule.bottom.draw widths

end FacetQuery
