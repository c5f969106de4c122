import Mathlib.Tactic.Ring
import Infochart.Decimal.Round

/-!
# Rounded quotients

Arithmetic cuts a significand bit by bit, and all that it keeps of what has been cut off are two bits.
`Represents` says which quotient such a significand stands for. Cutting a bit doubles the divisor
(`Represents.shiftRight`), and the significand is rounded to the integer nearest to the quotient
(`Represents.roundedMantissa_eq`); so from here on only quotients are spoken of.
-/

namespace Infochart
namespace Decimal

open Float.Model.UnpackedFloat

section Quotient

variable {num den m : Nat}

/-! ## The nearest integer -/

theorem roundDiv_of_lt (tie : Tie) (h : 2 * (num % den) < den) : roundDiv num den tie = num / den := by
  unfold roundDiv Tie.takesUpper
  simp only [if_pos h, Bool.false_eq_true, if_false]

theorem roundDiv_of_gt (tie : Tie) (h : den < 2 * (num % den)) :
    roundDiv num den tie = num / den + 1 := by
  have hnot : ¬ 2 * (num % den) < den := Nat.lt_asymm h
  unfold roundDiv Tie.takesUpper
  simp only [if_neg hnot, if_pos h, if_true]

theorem roundDiv_of_eq (h : 2 * (num % den) = den) :
    roundDiv num den .toEven = num / den + num / den % 2 := by
  have hnot : ¬ 2 * (num % den) < den := by omega
  have hnot' : ¬ den < 2 * (num % den) := by omega
  unfold roundDiv Tie.takesUpper
  simp only [if_neg hnot, if_neg hnot', decide_eq_true_eq]
  split <;> omega

theorem div_le_roundDiv (num den : Nat) (tie : Tie) : num / den ≤ roundDiv num den tie := by
  unfold roundDiv
  simp only
  split <;> omega

theorem roundDiv_le (num den : Nat) (tie : Tie) : roundDiv num den tie ≤ num / den + 1 := by
  unfold roundDiv
  simp only
  split <;> omega

/-- **The nearest integer is the one around which the quotient lies.** Half-way between two integers it
    is the even one. -/
theorem roundDiv_eq (hlow : 2 * (m * den) ≤ 2 * num + den) (hhigh : 2 * num ≤ 2 * (m * den) + den)
    (hodd : m % 2 = 1 → 2 * (m * den) < 2 * num + den ∧ 2 * num < 2 * (m * den) + den)
    (hden : 0 < den) : roundDiv num den .toEven = m := by
  have hsplit := Nat.div_add_mod' num den
  have hrest := Nat.mod_lt num hden
  have hnext : (num / den + 1) * den = num / den * den + den := by
    rw [Nat.add_mul, Nat.one_mul]
  have hcases : m = num / den ∨ m = num / den + 1 := by
    rcases Nat.lt_trichotomy m (num / den) with hlt | heq | hgt
    · have hle : (m + 1) * den ≤ num / den * den := Nat.mul_le_mul_right den hlt
      rw [Nat.add_mul, Nat.one_mul] at hle
      omega
    · exact .inl heq
    · refine .inr (Nat.le_antisymm ?_ hgt)
      by_contra hfar
      have hle : (num / den + 1 + 1) * den ≤ m * den := Nat.mul_le_mul_right den (by omega)
      rw [Nat.add_mul, Nat.one_mul] at hle
      omega
  rcases Nat.lt_trichotomy (2 * (num % den)) den with hlt | heq | hgt
  · rw [roundDiv_of_lt .toEven hlt]
    rcases hcases with h | rfl
    · exact h.symm
    · omega
  · -- Half-way, the bounds are met and so the integer is even.
    have heven : m % 2 = 0 := by
      by_contra hone
      have hstrict := hodd (by omega)
      rcases hcases with rfl | rfl
      · omega
      · omega
    rw [roundDiv_of_eq heq]
    omega
  · rw [roundDiv_of_gt .toEven hgt]
    rcases hcases with rfl | h
    · omega
    · exact h.symm

theorem roundDiv_mul (hden : 0 < den) (m : Nat) : roundDiv (m * den) den .toEven = m :=
  roundDiv_eq (by omega) (by omega) (fun _ => by omega) hden

/-- The nearest integer is at most half of one larger than the quotient. -/
theorem two_mul_roundDiv_le (tie : Tie) (hden : 0 < den) :
    2 * (roundDiv num den tie * den) ≤ 2 * num + den := by
  have hsplit := Nat.div_add_mod' num den
  have hrest := Nat.mod_lt num hden
  have hnext : (num / den + 1) * den = num / den * den + den := by
    rw [Nat.add_mul, Nat.one_mul]
  have hle := roundDiv_le num den tie
  by_cases hlt : 2 * (num % den) < den
  · rw [roundDiv_of_lt tie hlt]
    omega
  · have hmul := Nat.mul_le_mul_right den hle
    omega

/-! ## Significands with two bits behind them -/

/-- Whether a significand and its two bits stand for a quotient: they tell the part behind the point from
    zero and from a half. -/
structure Represents (em : ExtendedMantissa) (num den : Nat) : Prop where
  mantissa : em.mantissa = num / den
  round : em.roundBit = decide (den ≤ 2 * (num % den))
  sticky : em.stickyBit = decide (2 * (num % den) ≠ 0 ∧ 2 * (num % den) ≠ den)

/-- A significand and its accuracy stand for a quotient only if the significand is its integer part. -/
theorem eq_div_of_represents {acc : Accuracy}
    (h : Represents (ExtendedMantissa.ofMantissaAndAccuracy m acc) num den) : m = num / den := by
  rw [← h.mantissa]
  cases acc with
  | exact => rfl
  | inexact o => cases o <;> rfl

theorem represents_exact (m : Nat) :
    Represents (ExtendedMantissa.ofMantissaAndAccuracy m .exact) m 1 := by
  refine ⟨(Nat.div_one m).symm, ?_, ?_⟩
  · rw [Nat.mod_one]
    rfl
  · rw [Nat.mod_one]
    rfl

/-- The quotient and the accuracy that are computed of two natural numbers. -/
theorem represents_fraction (hden : 0 < den) :
    Represents (ExtendedMantissa.ofMantissaAndAccuracy (num / den)
      (accuracyOfFraction (num % den) den)) num den := by
  unfold accuracyOfFraction
  by_cases hzero : num % den = 0
  · rw [if_pos hzero]
    refine ⟨rfl, ?_, ?_⟩
    · exact (decide_eq_false (by omega)).symm
    · exact (decide_eq_false (by omega)).symm
  · rw [if_neg hzero]
    rcases Nat.lt_trichotomy (2 * (num % den)) den with hlt | heq | hgt
    · rw [Nat.compare_eq_lt.2 hlt]
      refine ⟨rfl, ?_, ?_⟩
      · exact (decide_eq_false (by omega)).symm
      · exact (decide_eq_true (by omega)).symm
    · rw [Nat.compare_eq_eq.2 heq]
      refine ⟨rfl, ?_, ?_⟩
      · exact (decide_eq_true (by omega)).symm
      · exact (decide_eq_false (by omega)).symm
    · rw [Nat.compare_eq_gt.2 hgt]
      refine ⟨rfl, ?_, ?_⟩
      · exact (decide_eq_true (by omega)).symm
      · exact (decide_eq_true (by omega)).symm

namespace Represents

variable {em : ExtendedMantissa}

/-- One bit. -/
theorem shiftRightOne (h : Represents em num den) (hden : 0 < den) :
    Represents em.shiftRightOne num (den * 2) := by
  have hrest := Nat.mod_lt num hden
  have hmod : num % (den * 2) = num % den + den * (num / den % 2) := Nat.mod_mul
  refine ⟨?_, ?_, ?_⟩
  · show em.mantissa / 2 = _
    rw [h.mantissa, Nat.div_div_eq_div_mul]
  · show (em.mantissa % 2 != 0) = _
    rw [h.mantissa, hmod]
    rcases Nat.mod_two_eq_zero_or_one (num / den) with hbit | hbit
    · rw [hbit]
      exact (decide_eq_false (by omega)).symm
    · rw [hbit]
      exact (decide_eq_true (by omega)).symm
  · -- What is left is zero only if nothing was left before.
    show (em.roundBit || em.stickyBit) = _
    rw [h.round, h.sticky, ← Bool.decide_or, hmod]
    refine decide_eq_decide.2 ?_
    rcases Nat.mod_two_eq_zero_or_one (num / den) with hbit | hbit
    · rw [hbit]
      omega
    · rw [hbit]
      omega

/-- **Cutting bits multiplies the divisor.** -/
theorem shiftRight (h : Represents em num den) (hden : 0 < den) (k : Nat) :
    Represents (em >>> k) num (den * 2 ^ k) := by
  induction k with
  | zero => rwa [Nat.pow_zero, Nat.mul_one]
  | succ k ih =>
    rw [Nat.pow_succ, ← Nat.mul_assoc]
    exact ih.shiftRightOne (Nat.mul_pos hden (Nat.two_pow_pos k))

/-- **The rounded significand is the rounded quotient.** -/
theorem roundedMantissa_eq (h : Represents em num den) (hden : 0 < den) :
    em.roundedMantissa = roundDiv num den .toEven := by
  obtain ⟨m, round, sticky⟩ := em
  obtain ⟨hm, hround, hsticky⟩ := h
  simp only at hm hround hsticky
  subst hm hround hsticky
  rcases Nat.lt_trichotomy (2 * (num % den)) den with hlt | heq | hgt
  · have hhalf : ¬ den ≤ 2 * (num % den) := by omega
    rw [decide_eq_false hhalf, roundDiv_of_lt .toEven hlt]
    cases decide (2 * (num % den) ≠ 0 ∧ 2 * (num % den) ≠ den) <;> rfl
  · have hhalf : den ≤ 2 * (num % den) := by omega
    have hnone : ¬ (2 * (num % den) ≠ 0 ∧ 2 * (num % den) ≠ den) := by omega
    rw [decide_eq_true hhalf, decide_eq_false hnone, roundDiv_of_eq heq]
    rfl
  · have hhalf : den ≤ 2 * (num % den) := by omega
    have hmore : 2 * (num % den) ≠ 0 ∧ 2 * (num % den) ≠ den := by omega
    rw [decide_eq_true hhalf, decide_eq_true hmore, roundDiv_of_gt .toEven hgt]
    rfl

end Represents

end Quotient

end Decimal
end Infochart
