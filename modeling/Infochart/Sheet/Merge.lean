import Infochart.Property.Reader
import Infochart.Sheet.Amount
import Infochart.Sheet.Grid
import Infochart.Sheet.Problem

/-!
# Merging a sheet into a description

The lines of the description that say what to draw and how are kept as they are, and the lines with the
data come from the sheet: labels from its first column, the unit and the names of the series from its
headers, and a dataset from each further column. So a later sheet takes the place of an earlier
one.
-/

namespace Infochart.Sheet

open Property (Id Known Scalar)

/-- The columns behind the labels that become datasets. -/
def maxDataColumns : Nat := 5

/-- Whether an identifier belongs to the lines that are kept. -/
def isKeptId (id : Id) : Bool :=
  100 ≤ id.toNat && id.toNat ≤ 599

/-- Whether a line of the description is kept: it has such an identifier and a value. -/
def isKept (line : List Char) : Bool :=
  match Text.splitFirst ',' (Text.trim line) with
  | some (token, value) =>
    (Id.ofDigits? (Text.trim token)).any isKeptId && !Text.allBlank value
  | none => false

def keptLines (base : List Char) : List Char :=
  ((Text.lines base).filter isKept).flatMap fun line => Text.trimEnd line ++ ['\n']

def listLine (k : Known) (items : List Scalar) : List Char :=
  Property.lineOf k.id (.list items) ++ ['\n']

namespace Grid

def labels (g : Grid) : List Scalar :=
  g.rows.map fun cells => .text (cells.head?.getD "")

def amounts (g : Grid) (column : Nat) : List Scalar :=
  (List.range g.rowCount).map fun row => .number (cellAmount (g.cell row column))

/-- The lines for the headers behind the first one: the unit, which stands in quotes as it is, and the
    names of the series. -/
def headerLines (g : Grid) : List Char :=
  match g.headers.drop 1 with
  | [] => []
  | unit :: r =>
    Known.unit.id.digits ++ ',' :: '"' :: unit.toList ++ ['"', '\n']
      ++ listLine .seriesLabels ((unit :: r).map .text)

def dataColumns (g : Grid) : Nat :=
  min (g.columnCount - 1) maxDataColumns

def dataLines (g : Grid) : List Char :=
  listLine .labels g.labels ++ g.headerLines
    ++ (List.range g.dataColumns).flatMap fun i => listLine (.dataset (i + 1)) (g.amounts (i + 1))

def mergeInto (g : Grid) (base : String) : Except Problem String :=
  if !(Property.read base).map.hasValue Known.visualizationType.id then .error .missingBase
  else if g.headers.isEmpty then .error .missingHeaders
  else if g.rows.isEmpty then .error .noData
  else .ok (String.ofList (keptLines base.toList ++ g.dataLines))

end Grid

end Infochart.Sheet
