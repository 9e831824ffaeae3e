/-!
Tables in box drawing characters. A column is as wide as its widest cell with a blank on either side; a
double line stands below the heading and a dashed one between rows. Cells are of characters that each
take one column of the screen.
-/

set_option autoImplicit false

namespace JavaDiagnostics.Text

structure Grid where
  heading : List String
  rows : List (List String)

-- The characters of a horizontal line: at the left, along a cell, between cells, and at the right.
structure Ruling where
  left : Char
  fill : Char
  cross : Char
  right : Char

namespace Grid

def top : Ruling := ⟨'┌', '─', '┬', '┐'⟩
def underHeading : Ruling := ⟨'╞', '═', '╪', '╡'⟩
def betweenRows : Ruling := ⟨'├', '╌', '┼', '┤'⟩
def bottom : Ruling := ⟨'└', '─', '┴', '┘'⟩

def widen : List Nat → List String → List Nat
  | width :: widths, cell :: cells => max width cell.length :: widen widths cells
  | widths, [] => widths
  | [], cells => cells.map String.length

def widths (grid : Grid) : List Nat := (grid.heading :: grid.rows).foldl widen []

def rule (widths : List Nat) (ruling : Ruling) : List Char :=
  ruling.left :: List.intercalate [ruling.cross] (widths.map fun width => List.replicate (width + 2) ruling.fill)
    ++ [ruling.right]

def pad (width : Nat) (cell : String) : List Char :=
  ' ' :: cell.toList ++ List.replicate (width - cell.length) ' ' ++ [' ']

def row (widths : List Nat) (cells : List String) : List Char :=
  '│' :: List.intercalate ['┆'] (List.zipWith pad widths cells) ++ ['│']

def lines (grid : Grid) : List (List Char) :=
  let widths := grid.widths
  [rule widths top, row widths grid.heading, rule widths underHeading]
    ++ (grid.rows.map (row widths)).intersperse (rule widths betweenRows)
    ++ [rule widths bottom]

def write (grid : Grid) : String := String.ofList (List.intercalate ['\n'] grid.lines)

end Grid

end JavaDiagnostics.Text
