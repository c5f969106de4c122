/-!
# Column names

Columns without a header of their own are named by letters: `A` to `Z`, then `AA`, `AB` and so on. The
names of one length come in alphabetical order, and shorter names come first.
-/

namespace Infochart.Sheet

/-- The letter at a place of the alphabet, counted from zero. -/
def columnLetter (n : Nat) : Char :=
  Char.ofNat (65 + n)

/-- The name of a column, counted from zero. -/
def columnName (index : Nat) : List Char :=
  if index < 26 then [columnLetter index]
  else columnName (index / 26 - 1) ++ [columnLetter (index % 26)]

end Infochart.Sheet
