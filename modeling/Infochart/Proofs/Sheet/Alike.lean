import Infochart.Proofs.Decimal.Named
import Infochart.Proofs.Sheet.Amount

/-!
# Cells and texts that count alike

A cell counts as the numeral that it begins with, a text in a property as the number that all of it stands
for. These are found in two ways: a cell is scanned with the digits of all scripts and may go on behind the
numeral, a text must be a numeral of ASCII or the name of a number as a whole. **Wherever a text stands
for a number the two agree** (`cellAmount_eq_amount`). A numeral is found as a whole in either way, and
what is out of range counts zero on both sides; a name stands for a number that is not finite, which
counts zero, and a cell finds no numeral in it.
-/

namespace Infochart.Sheet

open Decimal (Numeral Spells SpellsName setsApart_ascii)

variable {text : String} {n : Numeral}

/-- A text counts as the number that all of it stands for, zero if it stands for none. -/
theorem amount_text (text : String) : (Property.Scalar.text text).amount =
    Property.finiteOrZero ((Decimal.number? (Text.trim text.toList)).getD 0) := rfl

/-! ## Numerals -/

theorem cellAmount_of_spells (h : Spells Char.isDigit (Text.trim text.toList) n) :
    cellAmount text = Property.finiteOrZero n.value := by
  have hall : Spells isDigit (Text.trim text.toList) n := h.mono fun _ => isDigit_of_ascii
  unfold cellAmount
  rw [hall.scan_eq setsApart_isDigit]
  exact if_pos (Numeral.isAscii_iff.2 h.digits)

theorem amount_of_spells (h : Spells Char.isDigit (Text.trim text.toList) n) :
    (Property.Scalar.text text).amount = Property.finiteOrZero n.value := by
  rw [amount_text, Decimal.number?_of_spells h, Option.getD_some]

/-! ## Names -/

theorem cellAmount_of_spellsName (h : SpellsName (Text.trim text.toList)) : cellAmount text = 0 := by
  have hletters : ∀ c ∈ Decimal.initials, isDigit c = false := by decide
  unfold cellAmount
  rw [h.scan_eq_none hletters]

theorem amount_of_spellsName (h : SpellsName (Text.trim text.toList)) :
    (Property.Scalar.text text).amount = 0 := by
  obtain ⟨x, hnumber, hinfinite⟩ := h.exists_number?
  rw [amount_text, hnumber, Option.getD_some]
  exact if_neg (ne_true_of_eq_false hinfinite)

/-! ## Both -/

/-- **A cell and a text count alike wherever the text stands for a number**: a numeral of any form, in
    range or not, or the name of a number that is not finite. -/
theorem cellAmount_eq_amount (h : (Decimal.number? (Text.trim text.toList)).isSome) :
    cellAmount text = (Property.Scalar.text text).amount := by
  rcases Decimal.isSome_number?_iff.1 h with ⟨n, hn⟩ | hname
  · rw [cellAmount_of_spells hn, amount_of_spells hn]
  · rw [cellAmount_of_spellsName hname, amount_of_spellsName hname]

/-- A numeral with a bare point, an exponent that is out of range, and blanks around it. -/
theorem cellAmount_eq_amount_of_large :
    (Decimal.number? (Text.trim "\t-.5E+400 ".toList)).isSome = true ∧
      cellAmount "\t-.5E+400 " = (Property.Scalar.text "\t-.5E+400 ").amount := by
  have h : (Decimal.number? (Text.trim "\t-.5E+400 ".toList)).isSome = true := by decide
  exact ⟨h, cellAmount_eq_amount h⟩

end Infochart.Sheet
