import Infochart.Sheet.Column

/-!
# Sheets

A sheet is a row of headers above rows of cells. Rows may differ in length, and a cell that is not
there is the same as an empty one. Writing beyond the end makes the sheet grow, and a column that
grows gets its letters as its header.
-/

namespace Infochart.Sheet

structure Grid where
  headers : List String
  rows : List (List String)
  deriving DecidableEq, Repr

/-- The cells of a row, filled up with empty ones to a width. -/
def fill (width : Nat) (cells : List String) : List String :=
  cells ++ List.replicate (width - cells.length) ""

namespace Grid

def empty : Grid :=
  ⟨[], []⟩

/-- An empty sheet of a given size, with letters as headers. -/
def ofSize (rows columns : Nat) : Grid where
  headers := (List.range columns).map fun i => String.ofList (columnName i)
  rows := List.replicate rows (List.replicate columns "")

def rowCount (g : Grid) : Nat :=
  g.rows.length

/-- The length of the longest row, headers included. -/
def columnCount (g : Grid) : Nat :=
  g.rows.foldl (fun n cells => max n cells.length) g.headers.length

/-- A cell, empty where there is none. -/
def cell (g : Grid) (row column : Nat) : String :=
  (g.rows[row]?.bind (·[column]?)).getD ""

def addRow (g : Grid) : Grid :=
  { g with rows := g.rows ++ [List.replicate g.columnCount ""] }

/-- Puts a header of letters behind the others, and gives each row a cell below it. -/
def addColumn (g : Grid) : Grid where
  headers := g.headers ++ [String.ofList (columnName g.headers.length)]
  rows := g.rows.map (fill (g.headers.length + 1))

/-- Adds rows until there are at least `n`. -/
def growRows (g : Grid) (n : Nat) : Grid :=
  Nat.repeat addRow (n - g.rowCount) g

/-- Adds columns until there are at least `n` headers. -/
def growColumns (g : Grid) (n : Nat) : Grid :=
  Nat.repeat addColumn (n - g.headers.length) g

def setCell (g : Grid) (row column : Nat) (value : String) : Grid :=
  let g := (g.growRows (row + 1)).growColumns (column + 1)
  { g with rows := g.rows.modify row fun cells => (fill (column + 1) cells).set column value }

def setHeader (g : Grid) (column : Nat) (value : String) : Grid :=
  let g := g.growColumns (column + 1)
  { g with headers := g.headers.set column value }

end Grid

end Infochart.Sheet
