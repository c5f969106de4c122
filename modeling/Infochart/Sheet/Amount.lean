import Infochart.Text.Blank
import Infochart.Text.Range
import Infochart.Text.Table.Digit
import Infochart.Property.Value

/-!
# Amounts in cells

A cell counts as the number that it begins with, so that a unit or a percent sign may follow. The
numeral at the front is found with the digits of all scripts, and it counts only if it has none but
those of ASCII.
-/

namespace Infochart.Sheet

def isDigit (c : Char) : Bool :=
  Text.inRanges Text.Table.digits c.toNat

/-- The number that a cell begins with, zero if there is none or if it is out of range. -/
def cellAmount (cell : String) : Float :=
  match Decimal.Numeral.scan isDigit (Text.trim cell.toList) with
  | some (n, _) => if n.isAscii then Property.finiteOrZero n.value else 0
  | none => 0

end Infochart.Sheet
