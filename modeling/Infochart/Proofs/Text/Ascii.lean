import Mathlib.Data.List.Basic

/-!
# Letter case of ASCII

`Char.toLower` changes the capital letters of ASCII only. So whatever takes each of them for its small letter
does not see letter case at all (`apply_toLower`), which is settled by going through the alphabet.
-/

namespace Infochart.Text

/-- The capital letters of ASCII. -/
def capitals : List Char :=
  "ABCDEFGHIJKLMNOPQRSTUVWXYZ".toList

theorem mem_capitals_of_isUpper {c : Char} (h : c.isUpper = true) : c ∈ capitals := by
  have hall : ∀ n < 26, Char.ofNat (65 + n) ∈ capitals := by decide
  have hbounds : 65 ≤ c.toNat ∧ c.toNat ≤ 90 := of_decide_eq_true h
  have hc := hall (c.toNat - 65) (by omega)
  rwa [Nat.add_sub_cancel' hbounds.1, Char.ofNat_toNat] at hc

/-- What is no capital letter is left alone. -/
theorem toLower_eq_or_mem (c : Char) : c.toLower = c ∨ c ∈ capitals := by
  by_cases h : c.isUpper = true
  · exact .inr (mem_capitals_of_isUpper h)
  · exact .inl (dif_neg fun hc => h (decide_eq_true hc))

/-- What is alike for each capital letter and its small letter does not see letter case. -/
theorem apply_toLower {α : Type} (f : Char → α) (h : ∀ c ∈ capitals, f c.toLower = f c) (c : Char) :
    f c.toLower = f c := by
  rcases toLower_eq_or_mem c with hlower | hcapital
  · rw [hlower]
  · exact h c hcapital

end Infochart.Text
