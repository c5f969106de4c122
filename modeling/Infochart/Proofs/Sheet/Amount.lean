import Infochart.Proofs.Decimal.Numeral
import Infochart.Proofs.Decimal.Scientific
import Infochart.Proofs.Text.Blank
import Infochart.Sheet.Amount

/-!
# What a cell counts

A cell should count as the longest numeral that it begins with, rounded to 64 bits, whatever follows; out of
range or without a numeral it should count zero (`ReadsLeading`). The numeral is looked for with the
digits of all scripts, but it is read only if all its digits are those of ASCII. So **a cell counts as it
should unless a digit of another script makes its numeral longer, and then it counts zero**
(`readsLeading_iff`): `1٣` counts zero and not one. A cell whose only digits are those of ASCII always
counts as it should (`readsLeading_of_digits`).
-/

namespace Infochart

namespace Decimal

/-- The number that a numeral stands for, zero if it is out of range. -/
def Numeral.amount (n : Numeral) : ℚ :=
  if |rounding n.exact| < 2 ^ 1024 then rounding n.exact else 0

/-- The amount is the number of 64 bits that is read. -/
theorem Numeral.value?_finiteOrZero (n : Numeral) :
    value? (Property.finiteOrZero n.value) = some n.amount := by
  obtain ⟨hvalue, hinfinite⟩ := n.isRounded_value
  unfold Property.finiteOrZero Numeral.amount
  by_cases hin : |rounding n.exact| < 2 ^ 1024
  · rw [if_pos (isFinite_iff.2 ⟨_, hvalue hin⟩), if_pos hin]
    exact hvalue hin
  · have hnot : ¬ Decimal.isFinite n.value = true := by
      unfold Decimal.isFinite
      rw [hinfinite hin]
      exact Bool.false_ne_true
    rw [if_neg hnot, if_neg hin]
    exact value?_zero

theorem Numeral.isAscii_iff {n : Numeral} :
    n.isAscii = true ↔ ∀ c ∈ n.digits, c.isDigit = true := by
  unfold Numeral.isAscii Numeral.digits
  simp only [Bool.and_eq_true, List.all_eq_true, List.forall_mem_append]

end Decimal

namespace Sheet

open Decimal (IsLeading Numeral SetsApart setsApart_ascii value?)

/-! ## Digits -/

theorem setsApart_isDigit : SetsApart isDigit :=
  ⟨by decide, by decide, by decide, by decide, by decide⟩

theorem isDigit_of_ascii {c : Char} (h : c.isDigit = true) : isDigit c = true := by
  obtain ⟨hlow, hhigh⟩ := Char.isDigit_iff_toNat.1 h
  refine List.any_eq_true.2 ⟨(0x30, 0x39), List.mem_cons_self .., ?_⟩
  rw [Bool.and_eq_true, decide_eq_true_eq, decide_eq_true_eq]
  exact ⟨hlow, hhigh⟩

/-! ## Cells -/

/-- Whether a cell counts as the numeral that it begins with, and zero if there is none. -/
structure ReadsLeading (cell : String) : Prop where
  leading : ∀ w n, IsLeading Char.isDigit (Text.trim cell.toList) w n →
    value? (cellAmount cell) = some n.amount
  missing : (∀ w n, ¬ IsLeading Char.isDigit (Text.trim cell.toList) w n) → cellAmount cell = 0

section Cell

variable {cell : String} {w : List Char} {n : Numeral}

/-- What a cell counts if its numeral in the digits of all scripts is one of ASCII. -/
theorem value?_of_isAscii (h : IsLeading isDigit (Text.trim cell.toList) w n)
    (hn : n.isAscii = true) : value? (cellAmount cell) = some n.amount := by
  obtain ⟨r, hr⟩ := h.leads
  have hscan := (Numeral.scan_eq_some_iff setsApart_isDigit).2 ⟨w, hr.symm, h⟩
  unfold cellAmount
  simp only [hscan, if_pos hn]
  exact n.value?_finiteOrZero

/-- A cell that counts anything begins with a numeral in the digits of all scripts, and that is one of
    ASCII. -/
theorem exists_leading_of_ne_zero (h : cellAmount cell ≠ 0) :
    ∃ w n, IsLeading isDigit (Text.trim cell.toList) w n ∧
      IsLeading Char.isDigit (Text.trim cell.toList) w n := by
  unfold cellAmount at h
  cases hscan : Numeral.scan isDigit (Text.trim cell.toList) with
  | none =>
    rw [hscan] at h
    exact absurd rfl h
  | some found =>
    obtain ⟨n, r⟩ := found
    obtain ⟨w, -, hw⟩ := (Numeral.scan_eq_some_iff setsApart_isDigit).1 hscan
    simp only [hscan] at h
    split at h
    case isTrue hn =>
      exact ⟨w, n, hw, hw.restrict (fun _ => isDigit_of_ascii) (Numeral.isAscii_iff.1 hn)⟩
    case isFalse => exact absurd rfl h

/-- A cell counts as it should if no other digits make its numeral longer, or if that stands for zero. -/
theorem readsLeading_of_leading (h : ∀ w n, IsLeading Char.isDigit (Text.trim cell.toList) w n →
    IsLeading isDigit (Text.trim cell.toList) w n ∨ n.amount = 0) : ReadsLeading cell := by
  constructor
  · intro w n hw
    rcases h w n hw with hkept | hzero
    · exact value?_of_isAscii hkept (Numeral.isAscii_iff.2 hw.spells.digits)
    · by_cases hcell : cellAmount cell = 0
      · rw [hcell, hzero]
        exact Decimal.value?_zero
      · obtain ⟨v, m, hv, hascii⟩ := exists_leading_of_ne_zero hcell
        obtain ⟨rfl, rfl⟩ := hw.unique setsApart_ascii hascii
        exact value?_of_isAscii hv (Numeral.isAscii_iff.2 hw.spells.digits)
  · intro hnone
    by_contra hcell
    obtain ⟨w, n, -, hascii⟩ := exists_leading_of_ne_zero hcell
    exact hnone w n hascii

theorem leading_of_readsLeading (h : ReadsLeading cell)
    (hw : IsLeading Char.isDigit (Text.trim cell.toList) w n) :
    IsLeading isDigit (Text.trim cell.toList) w n ∨ n.amount = 0 := by
  have hvalue := h.leading w n hw
  by_cases hcell : cellAmount cell = 0
  · rw [hcell, Decimal.value?_zero] at hvalue
    exact .inr (Option.some.inj hvalue).symm
  · obtain ⟨v, m, hv, hascii⟩ := exists_leading_of_ne_zero hcell
    obtain ⟨rfl, rfl⟩ := hw.unique setsApart_ascii hascii
    exact .inl hv

/-- **A cell counts as the numeral that it begins with exactly if no digit of another script makes this
    numeral longer**, or if the numeral stands for zero; any other cell counts zero. -/
theorem readsLeading_iff (cell : String) :
    (ReadsLeading cell ↔ ∀ w n, IsLeading Char.isDigit (Text.trim cell.toList) w n →
      IsLeading isDigit (Text.trim cell.toList) w n ∨ n.amount = 0) ∧
    (¬ ReadsLeading cell → cellAmount cell = 0) := by
  refine ⟨⟨fun h w n hw => leading_of_readsLeading h hw, readsLeading_of_leading⟩, ?_⟩
  intro h
  by_contra hcell
  obtain ⟨w, n, hw, hascii⟩ := exists_leading_of_ne_zero hcell
  refine h (readsLeading_of_leading fun v m hv => .inl ?_)
  obtain ⟨rfl, rfl⟩ := hv.unique setsApart_ascii hascii
  exact hw

/-- A one with a three of another script behind it counts zero. -/
theorem not_readsLeading_mixed : ¬ ReadsLeading "1\u0663" := by
  intro h
  have hall : Numeral.scan isDigit (Text.trim "1\u0663".toList) =
      some (⟨false, ['1', '\u0663'], [], false, []⟩, []) := by decide
  have hascii : Numeral.scan Char.isDigit (Text.trim "1\u0663".toList) =
      some (⟨false, ['1'], [], false, []⟩, ['\u0663']) := by decide
  have hzero : cellAmount "1\u0663" = 0 := by
    unfold cellAmount
    rw [hall]
    rfl
  have hone : Numeral.amount ⟨false, ['1'], [], false, []⟩ = 1 := by
    have hexact : Numeral.exact ⟨false, ['1'], [], false, []⟩ = 1 := by
      have hdigit : Decimal.ofDigits ['1'] = 1 := rfl
      have hnone : Decimal.ofDigits [] = 0 := rfl
      simp [Numeral.exact, Decimal.withSign, hdigit, hnone]
    unfold Numeral.amount
    rw [hexact, Decimal.rounding_one, abs_one, if_pos (one_lt_pow₀ one_lt_two (by decide))]
  obtain ⟨w, -, hw⟩ := (Numeral.scan_eq_some_iff setsApart_ascii).1 hascii
  have hvalue := h.leading w _ hw
  rw [hzero, Decimal.value?_zero, hone] at hvalue
  exact zero_ne_one (Option.some.inj hvalue)

/-- A cell without digits of other scripts counts as it should. -/
theorem readsLeading_of_digits (h : ∀ c ∈ cell.toList, isDigit c = true → c.isDigit = true) :
    ReadsLeading cell := by
  refine readsLeading_of_leading fun w n hw => .inl ?_
  refine ⟨hw.leads, hw.spells.mono fun _ => isDigit_of_ascii, fun v m hv hm => ?_⟩
  refine hw.longest v m hv (hm.change fun c hc => h c ?_ (hm.digits c hc))
  exact Text.mem_of_mem_trim (hv.subset (hm.digits_subset hc))

end Cell

end Sheet
end Infochart
