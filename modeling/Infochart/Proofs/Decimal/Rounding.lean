import Mathlib.Tactic.Linarith
import Mathlib.Tactic.Ring
import Mathlib.Algebra.Order.Field.Rat
import Mathlib.Algebra.Order.Field.Power
import Infochart.Proofs.Decimal.Quotient
import Infochart.Proofs.Decimal.Unpacked

/-!
# Rounding

The result of an operation is a significand of any length, cut to 53 bits: the integer nearest to a
quotient, unless that has a bit too many (`roundWithAccuracy_eq`). So a significand that fits is not
changed (`roundWithAccuracy_exact`), and rounding makes a number larger by at most one part in
`2 ^ 53` (`roundWithAccuracy_le`). Numbers below the smallest exponent play no part.
-/

namespace Infochart
namespace Decimal

open Float.Model (UnpackedFloat Format totalExponent)
open Float.Model.UnpackedFloat

/-- The number `m · 2 ^ e`. -/
def dyadic (m : Nat) (e : Int) : ℚ :=
  m * 2 ^ e

theorem two_zpow_pos (q : Int) : (0 : ℚ) < 2 ^ q :=
  zpow_pos two_pos q

/-! ## Rounding to 53 bits -/

theorem shiftToTargetExponent_eq {m : Nat} {e : Int} {k : Nat} (acc : Accuracy)
    (hlow : 2 ^ (52 + k) ≤ m) (hhigh : m < 2 ^ (53 + k)) (he : -1074 ≤ e + k) :
    shiftToTargetExponent Format.binary64 m e acc =
      (ExtendedMantissa.ofMantissaAndAccuracy m acc >>> k, e + k) := by
  have hlog : m.log2 = 52 + k := log2_eq hlow (by rwa [Nat.add_right_comm])
  have htarget : Format.binary64.targetExponent (totalExponent m e) = e + k := by
    unfold Format.targetExponent totalExponent
    rw [hlog]
    show max (((52 + k : Nat) : Int) + 1 + e - 53) (-1074) = e + k
    omega
  have hshift : (e + k - e).toNat = k := by omega
  unfold shiftToTargetExponent shiftToExponent
  simp only [htarget, hshift]

theorem finite_congr {s : Sign} {m m' : Nat} {e e' : Int} {h : 0 < m} {h' : 0 < m'} (hm : m = m')
    (he : e = e') : UnpackedFloat.finite s m e h = .finite s m' e' h' := by
  subst hm he
  rfl

/-- Rounding, from its two cuts. -/
theorem roundWithAccuracy_of_cuts (s : Sign) {m m' : Nat} {e e₁ e' : Int} {acc : Accuracy}
    {em em' : ExtendedMantissa} (hm' : 0 < m')
    (hfirst : shiftToTargetExponent Format.binary64 m e acc = (em, e₁))
    (hsecond : shiftToTargetExponent Format.binary64 em.roundedMantissa e₁ .exact = (em', e'))
    (hleft : em'.mantissa = m') :
    roundWithAccuracy Format.binary64 s m e acc = .finite s m' e' hm' := by
  subst hleft
  have hne : ¬ (shiftToTargetExponent Format.binary64 em.roundedMantissa e₁ .exact).1.mantissa
      = 0 := by
    rw [hsecond]
    exact Nat.pos_iff_ne_zero.1 hm'
  -- The result carries a proof about its significand, so the cuts are put in one component at a time.
  have hcuts : roundWithAccuracy Format.binary64 s m e acc =
      if h : (shiftToTargetExponent Format.binary64 em.roundedMantissa e₁ .exact).1.mantissa = 0
      then .zero s
      else .finite s (shiftToTargetExponent Format.binary64 em.roundedMantissa e₁ .exact).1.mantissa
        (shiftToTargetExponent Format.binary64 em.roundedMantissa e₁ .exact).2
        (Nat.pos_of_ne_zero h) := by
    unfold roundWithAccuracy
    rw [hfirst]
  rw [hcuts, dif_neg hne]
  exact finite_congr (by rw [hsecond]) (by rw [hsecond])

/-- **What is left of a significand that is long enough is a rounded quotient.** The second cut removes
    the bit that rounding may have added. -/
theorem roundWithAccuracy_eq (s : Sign) {m num den : Nat} {e : Int} {k : Nat} {acc : Accuracy}
    (hrep : Represents (ExtendedMantissa.ofMantissaAndAccuracy m acc) num den) (hden : 0 < den)
    (hlow : 2 ^ (52 + k) ≤ m) (hhigh : m < 2 ^ (53 + k)) (he : -1074 ≤ e + k) :
    ∃ m' e', ∃ h : 0 < m', roundWithAccuracy Format.binary64 s m e acc = .finite s m' e' h ∧
      2 ^ 52 ≤ m' ∧ m' < 2 ^ 53 ∧ e + k ≤ e' ∧
      ((m' = roundDiv num (den * 2 ^ k) .toEven ∧ e' = e + k) ∨
        (2 * m' = roundDiv num (den * 2 ^ k) .toEven ∧ e' = e + k + 1)) := by
  have hfirst := shiftToTargetExponent_eq acc hlow hhigh he
  have hcut := hrep.shiftRight hden k
  have hrounded := hcut.roundedMantissa_eq (Nat.mul_pos hden (Nat.two_pow_pos k))
  have hquotient : num / (den * 2 ^ k) = m / 2 ^ k := by
    rw [eq_div_of_represents hrep, Nat.div_div_eq_div_mul]
  have hq : 2 ^ 52 ≤ m / 2 ^ k := by
    rw [Nat.le_div_iff_mul_le (Nat.two_pow_pos k), ← Nat.pow_add]
    exact hlow
  have hq' : m / 2 ^ k < 2 ^ 53 := by
    rw [Nat.div_lt_iff_lt_mul (Nat.two_pow_pos k), ← Nat.pow_add]
    exact hhigh
  have hr := div_le_roundDiv num (den * 2 ^ k) .toEven
  have hr' := roundDiv_le num (den * 2 ^ k) .toEven
  rw [hquotient] at hr hr'
  -- Without a carry the second cut takes nothing off; with one it takes off the last bit, a zero.
  by_cases hcarry : roundDiv num (den * 2 ^ k) .toEven < 2 ^ 53
  · have hpos : 0 < roundDiv num (den * 2 ^ k) .toEven := by omega
    have hsecond := @shiftToTargetExponent_eq (roundDiv num (den * 2 ^ k) .toEven) (e + k) 0 .exact
      (by omega) (by omega) (by omega)
    rw [← hrounded] at hsecond hpos
    have heq := roundWithAccuracy_of_cuts s hpos hfirst hsecond rfl
    refine ⟨_, _, hpos, heq, ?_, ?_, by omega, .inl ⟨hrounded, by omega⟩⟩
    · rw [hrounded]
      omega
    · rw [hrounded]
      exact hcarry
  · have htop : roundDiv num (den * 2 ^ k) .toEven = 2 ^ 53 := by omega
    have hsecond := @shiftToTargetExponent_eq (2 ^ 53) (e + k) 1 .exact (by omega) (by omega)
      (by omega)
    rw [← htop, ← hrounded] at hsecond
    have hleft : (ExtendedMantissa.ofMantissaAndAccuracy
        (ExtendedMantissa.ofMantissaAndAccuracy m acc >>> k).roundedMantissa .exact
          >>> 1).mantissa = 2 ^ 52 := by
      rw [hrounded, htop]
      rfl
    have heq := roundWithAccuracy_of_cuts s (by decide) hfirst hsecond hleft
    exact ⟨2 ^ 52, e + k + (1 : Nat), by decide, heq, by decide, by decide, by omega,
      .inr ⟨by omega, by omega⟩⟩

/-- **A significand that fits is not changed.** -/
theorem roundWithAccuracy_exact (s : Sign) {m : Nat} {e : Int} (k : Nat) (hm : 0 < m)
    (hlow : 2 ^ 52 ≤ m) (hhigh : m < 2 ^ 53) (he : -1074 ≤ e + k) :
    roundWithAccuracy Format.binary64 s (m * 2 ^ k) e .exact = .finite s m (e + k) hm := by
  have hpos := Nat.two_pow_pos k
  have hlow' : 2 ^ (52 + k) ≤ m * 2 ^ k := by
    rw [Nat.pow_add]
    exact Nat.mul_le_mul_right _ hlow
  have hhigh' : m * 2 ^ k < 2 ^ (53 + k) := by
    rw [Nat.pow_add]
    exact Nat.mul_lt_mul_of_pos_right hhigh hpos
  have hsame : roundDiv (m * 2 ^ k) (1 * 2 ^ k) .toEven = m := by
    rw [Nat.one_mul]
    exact roundDiv_mul hpos m
  obtain ⟨m', e', h, heq, hmin, -, -, ⟨rfl, rfl⟩ | ⟨htop, -⟩⟩ :=
    roundWithAccuracy_eq s (represents_exact (m * 2 ^ k)) Nat.one_pos hlow' hhigh' he
  · exact heq.trans (finite_congr hsame rfl)
  · rw [hsame] at htop
    omega

/-! ## How much rounding adds -/

theorem dyadic_add (m : Nat) (e : Int) (k : Nat) : dyadic m (e + k) = dyadic (m * 2 ^ k) e := by
  unfold dyadic
  rw [zpow_add₀ two_ne_zero, zpow_natCast]
  push_cast
  ring

theorem dyadic_mul (m n : Nat) (e f : Int) :
    dyadic (m * n) (e + f) = dyadic m e * dyadic n f := by
  unfold dyadic
  rw [zpow_add₀ two_ne_zero]
  push_cast
  ring

theorem dyadic_nonneg (m : Nat) (e : Int) : 0 ≤ dyadic m e := by
  unfold dyadic
  exact mul_nonneg (Nat.cast_nonneg m) (zpow_nonneg (by norm_num) e)

/-- The part that one rounding may add. -/
def unitRoundoff : ℚ :=
  1 / 2 ^ 53

theorem dyadic_roundDiv_le {m : Nat} {e : Int} {k : Nat} (hlow : 2 ^ (52 + k) ≤ m) :
    dyadic (roundDiv m (2 ^ k) .toEven) (e + k) ≤ dyadic m e * (1 + unitRoundoff) := by
  have hround := @two_mul_roundDiv_le m (2 ^ k) .toEven (Nat.two_pow_pos k)
  have hk : 2 ^ 52 * 2 ^ k ≤ m := by rwa [← Nat.pow_add]
  have hnat : 2 ^ 53 * (roundDiv m (2 ^ k) .toEven * 2 ^ k) ≤ m * (2 ^ 53 + 1) := by
    have h1 : 2 ^ 52 * (2 * (roundDiv m (2 ^ k) .toEven * 2 ^ k)) ≤ 2 ^ 52 * (2 * m + 2 ^ k) :=
      Nat.mul_le_mul_left _ hround
    omega
  have hrat : ((roundDiv m (2 ^ k) .toEven * 2 ^ k : Nat) : ℚ) ≤ m * (1 + unitRoundoff) := by
    have hcast : (2 ^ 53 : ℚ) * ((roundDiv m (2 ^ k) .toEven * 2 ^ k : Nat) : ℚ) ≤ m * (2 ^ 53 + 1) := by
      exact_mod_cast hnat
    unfold unitRoundoff
    have hsplit : (m : ℚ) * (1 + 1 / 2 ^ 53) = m * (2 ^ 53 + 1) / 2 ^ 53 := by ring
    rw [hsplit, le_div_iff₀ (by norm_num)]
    linarith
  have hpos : (0 : ℚ) ≤ 2 ^ e := zpow_nonneg (by norm_num) e
  rw [dyadic_add]
  unfold dyadic
  calc ((roundDiv m (2 ^ k) .toEven * 2 ^ k : Nat) : ℚ) * 2 ^ e
      ≤ m * (1 + unitRoundoff) * 2 ^ e := mul_le_mul_of_nonneg_right hrat hpos
    _ = m * 2 ^ e * (1 + unitRoundoff) := by ring

/-- **Rounding makes a number larger by at most one part in `2 ^ 53`.** -/
theorem roundWithAccuracy_le (s : Sign) {m : Nat} {e : Int} {k : Nat} (hlow : 2 ^ (52 + k) ≤ m)
    (hhigh : m < 2 ^ (53 + k)) (he : -1074 ≤ e + k) :
    ∃ m' e', ∃ h : 0 < m', roundWithAccuracy Format.binary64 s m e .exact = .finite s m' e' h ∧
      2 ^ 52 ≤ m' ∧ m' < 2 ^ 53 ∧ e + k ≤ e' ∧
      dyadic m' e' ≤ dyadic m e * (1 + unitRoundoff) := by
  obtain ⟨m', e', h, heq, hmin, hmax, hexp, hvalue⟩ :=
    roundWithAccuracy_eq s (represents_exact m) Nat.one_pos hlow hhigh he
  rw [Nat.one_mul] at hvalue
  refine ⟨m', e', h, heq, hmin, hmax, hexp, ?_⟩
  have hbound := dyadic_roundDiv_le (e := e) hlow
  rcases hvalue with ⟨rfl, rfl⟩ | ⟨htop, rfl⟩
  · exact hbound
  · -- The carry moved one place to the left, and the value is the same.
    have hsame : dyadic m' (e + k + 1) = dyadic (roundDiv m (2 ^ k) .toEven) (e + k) := by
      have h1 := dyadic_add m' (e + k) 1
      rw [Nat.cast_one] at h1
      rw [h1, ← htop, Nat.pow_one, Nat.mul_comm]
    rw [hsame]
    exact hbound

end Decimal
end Infochart
