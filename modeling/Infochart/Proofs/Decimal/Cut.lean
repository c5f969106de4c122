import Mathlib.Data.Nat.Cast.Order.Field
import Infochart.Proofs.Decimal.Grid

/-!
# Cutting a significand to the grid

What an operation computes is a significand of any length, with two bits for what it leaves out. It is
cut twice: to the grid of the number, and once more where rounding has added a bit. What is left is the
rounded number (`roundWithAccuracy_value`), for numbers of all sizes, if only the significand was long
enough for its grid.
-/

namespace Infochart
namespace Decimal

open Float.Model (UnpackedFloat Format totalExponent)
open Float.Model.UnpackedFloat

/-- Significand and exponent of a number or of a zero, as 64 bits hold them if the exponent is not too
    large. -/
structure Regular (m : Nat) (e : Int) : Prop where
  lt : m < 2 ^ 53
  low : -1074 ≤ e
  leading : e = -1074 ∨ 2 ^ 52 ≤ m

theorem Binary.Canonical.regular {m : Nat} {e : Int} (h : Binary.Canonical m e) : Regular m e :=
  ⟨h.lt, h.low, h.leading⟩

theorem two_pow_top {a : Nat} {b : Int} (h : a + b = 1024) : (2 : ℚ) ^ 1024 = 2 ^ a * 2 ^ b := by
  rw [← zpow_natCast 2 a, ← zpow_add₀ two_ne_zero, h]
  rfl

/-- What is in range has an exponent in range. -/
theorem Regular.lt_two_pow_iff {m : Nat} {e : Int} (h : Regular m e) :
    dyadic m e < 2 ^ 1024 ↔ e ≤ 971 := by
  have htop : (2 : ℚ) ^ 1024 = 2 ^ 52 * 2 ^ (972 : Int) := two_pow_top rfl
  have htop' : (2 : ℚ) ^ 1024 = 2 ^ 53 * 2 ^ (971 : Int) := two_pow_top rfl
  constructor
  · intro hlt
    by_contra hbig
    have hm : (2 : ℚ) ^ 52 ≤ m := by
      have hle : 2 ^ 52 ≤ m := h.leading.resolve_left (by omega)
      exact_mod_cast hle
    have hpow : (2 : ℚ) ^ (972 : Int) ≤ 2 ^ e := zpow_le_zpow_right₀ one_le_two (by omega)
    have hle : (2 : ℚ) ^ 1024 ≤ dyadic m e := by
      rw [htop]
      exact mul_le_mul hm hpow (two_zpow_pos _).le (Nat.cast_nonneg m)
    exact not_lt.2 hle hlt
  · intro hle
    have hm : (m : ℚ) < 2 ^ 53 := by exact_mod_cast h.lt
    have hpow : (2 : ℚ) ^ e ≤ 2 ^ (971 : Int) := zpow_le_zpow_right₀ one_le_two hle
    rw [htop']
    calc dyadic m e ≤ m * 2 ^ (971 : Int) := mul_le_mul_of_nonneg_left hpow (Nat.cast_nonneg m)
      _ < 2 ^ 53 * 2 ^ (971 : Int) := mul_lt_mul_of_pos_right hm (two_zpow_pos _)

/-! ## The two cuts -/

/-- The exponent that a significand is cut to. -/
def cutExponent (m : Nat) (e : Int) : Int :=
  max ((m.log2 : Int) + e - 52) (-1074)

theorem targetExponent_eq (m : Nat) (e : Int) :
    Format.binary64.targetExponent (totalExponent m e) = cutExponent m e := by
  show max ((m.log2 : Int) + 1 + e - 53) (-1074) = max ((m.log2 : Int) + e - 52) (-1074)
  omega

/-- The significand is cut only where it is longer than the grid. -/
theorem shiftToTargetExponent_cut {m : Nat} {e : Int} {k : Nat} (acc : Accuracy)
    (hk : (cutExponent m e - e).toNat = k) :
    shiftToTargetExponent Format.binary64 m e acc =
      (ExtendedMantissa.ofMantissaAndAccuracy m acc >>> k, e + k) := by
  unfold shiftToTargetExponent shiftToExponent
  simp only [targetExponent_eq, hk]

/-- A quotient is cut to the exponent of its grid. -/
theorem gridExponent_quotient {num den : Nat} {e : Int} (hnum : 0 < num) (hden : 0 < den)
    (hfit : 2 ^ 52 ≤ num / den ∨ e ≤ -1074) :
    gridExponent (num / den * 2 ^ e) = cutExponent (num / den) e := by
  have hden' : (0 : ℚ) < den := Nat.cast_pos.2 hden
  have hlow : ((num / den : Nat) : ℚ) ≤ num / den := Nat.cast_div_le
  have hhigh : (num / den : ℚ) < ((num / den + 1 : Nat) : ℚ) := by
    rw [div_lt_iff₀ hden']
    exact_mod_cast Nat.lt_mul_of_div_lt (Nat.lt_succ_self (num / den)) hden
  have hpos := two_zpow_pos e
  rcases Nat.eq_zero_or_pos (num / den) with hzero | hm
  · -- The quotient is less than one, and so the number lies below the smallest exponent.
    have he : e ≤ -1074 := hfit.resolve_left (by omega)
    have hv : (0 : ℚ) < num / den * 2 ^ e :=
      mul_pos (div_pos (Nat.cast_pos.2 hnum) hden') hpos
    have hlt : (num / den * 2 ^ e : ℚ) < 2 ^ ((-1074 : Int)) := by
      rw [hzero, Nat.zero_add, Nat.cast_one] at hhigh
      calc (num / den * 2 ^ e : ℚ) < 1 * 2 ^ e := mul_lt_mul_of_pos_right hhigh hpos
        _ = 2 ^ e := one_mul _
        _ ≤ 2 ^ (-1074 : Int) := zpow_le_zpow_right₀ one_le_two he
    have hlog := (zpow_lt_zpow_iff_right₀ (one_lt_two : (1 : ℚ) < 2)).1
      ((two_zpow_log_le hv).trans_lt hlt)
    unfold gridExponent cutExponent
    rw [hzero, Nat.log2_zero]
    omega
  · have hne : num / den ≠ 0 := Nat.pos_iff_ne_zero.1 hm
    have hbelow : (2 : ℚ) ^ ((num / den).log2 : Int) ≤ num / den := by
      refine le_trans ?_ hlow
      rw [zpow_natCast]
      exact_mod_cast Nat.log2_self_le hne
    have habove : (num / den : ℚ) < 2 ^ (((num / den).log2 : Int) + 1) := by
      refine lt_of_lt_of_le hhigh ?_
      exact_mod_cast Nat.lt_log2_self (n := num / den)
    have hlog : Int.log 2 (num / den * 2 ^ e : ℚ) = (num / den).log2 + e := by
      refine log_eq ?_ ?_
      · rw [zpow_add₀ two_ne_zero]
        exact mul_le_mul_of_nonneg_right hbelow hpos.le
      · rw [add_right_comm, zpow_add₀ two_ne_zero]
        exact mul_lt_mul_of_pos_right habove hpos
    unfold gridExponent cutExponent
    rw [hlog]

/-- What is left of a significand after the second cut, which removes the bit that rounding may have
    added. -/
theorem exists_second_cut {r : Nat} {f : Int} (hr : r ≤ 2 ^ 53) (hf : -1074 ≤ f)
    (hlead : f = -1074 ∨ 2 ^ 52 ≤ r) :
    ∃ m' e', Regular m' e' ∧ dyadic m' e' = dyadic r f ∧
      (shiftToTargetExponent Format.binary64 r f .exact).1.mantissa = m' ∧
      (shiftToTargetExponent Format.binary64 r f .exact).2 = e' := by
  rcases Nat.lt_or_eq_of_le hr with hlt | rfl
  · have hlog : r.log2 ≤ 52 := by
      rcases Nat.eq_zero_or_pos r with rfl | hpos
      · rw [Nat.log2_zero]
        exact Nat.zero_le _
      · exact Nat.le_of_lt_succ ((Nat.log2_lt (Nat.pos_iff_ne_zero.1 hpos)).2 hlt)
    have hcut := shiftToTargetExponent_cut (m := r) (e := f) (k := 0) .exact (by
      unfold cutExponent
      omega)
    refine ⟨r, f, ⟨hlt, hf, hlead⟩, rfl, ?_, ?_⟩
    · rw [hcut]
      rfl
    · rw [hcut]
      exact Int.add_zero f
  · have hlog : Nat.log2 (2 ^ 53) = 53 := Nat.log2_two_pow
    have hcut := shiftToTargetExponent_cut (m := 2 ^ 53) (e := f) (k := 1) .exact (by
      unfold cutExponent
      omega)
    have hcarry := dyadic_add (2 ^ 52) f 1
    refine ⟨2 ^ 52, f + (1 : Nat), ⟨by decide, by omega, .inr le_rfl⟩, hcarry, ?_, ?_⟩
    · rw [hcut]
      rfl
    · rw [hcut]

/-- A significand that is long enough, or below the smallest exponent, is cut to its grid and no
    further. -/
theorem add_cut {m k : Nat} {e : Int} (hfit : 2 ^ 52 ≤ m ∨ e ≤ -1074)
    (hk : (cutExponent m e - e).toNat = k) : e + k = cutExponent m e := by
  have hle : e ≤ cutExponent m e := by
    unfold cutExponent
    rcases hfit with hlong | hsmall
    · have hlog : 52 ≤ m.log2 := (Nat.le_log2 (by omega)).2 hlong
      omega
    · omega
  omega

/-- The cut leaves 53 bits, or fewer on the grid of the smallest exponent. -/
theorem cut_bounds {m k : Nat} {e : Int} (hfit : 2 ^ 52 ≤ m ∨ e ≤ -1074)
    (hcut : e + k = cutExponent m e) :
    m / 2 ^ k < 2 ^ 53 ∧ (e + k = -1074 ∨ 2 ^ 52 ≤ m / 2 ^ k) := by
  unfold cutExponent at hcut
  constructor
  · rw [Nat.div_lt_iff_lt_mul (Nat.two_pow_pos k), ← Nat.pow_add]
    have hle : m.log2 + 1 ≤ 53 + k := by omega
    exact Nat.lt_log2_self.trans_le (Nat.pow_le_pow_right (by decide) hle)
  · by_cases hmin : e + k = -1074
    · exact .inl hmin
    · have hne : m ≠ 0 := by
        rintro rfl
        rw [Nat.log2_zero] at hcut
        omega
      refine .inr ?_
      rw [Nat.le_div_iff_mul_le (Nat.two_pow_pos k), ← Nat.pow_add]
      have hle : 52 + k ≤ m.log2 := by omega
      exact (Nat.pow_le_pow_right (by decide) hle).trans (Nat.log2_self_le hne)

/-- The first cut rounds a quotient to its grid. -/
theorem dyadic_first_cut {num den k : Nat} {e : Int} (hnum : 0 < num) (hden : 0 < den)
    (hfit : 2 ^ 52 ≤ num / den ∨ e ≤ -1074) (hcut : e + k = cutExponent (num / den) e) :
    dyadic (roundDiv num (den * 2 ^ k) .toEven) (e + k) = roundPos (num / den * 2 ^ e) := by
  have hden' : 0 < den * 2 ^ k := Nat.mul_pos hden (Nat.two_pow_pos k)
  unfold roundPos
  rw [gridExponent_quotient hnum hden hfit, ← hcut, ← nearestEven_div num hden']
  congr 2
  rw [zpow_add₀ two_ne_zero, zpow_natCast]
  have hpos := (two_zpow_pos e).ne'
  push_cast
  field_simp

/-- What the first cut leaves has 53 bits, or fewer on the grid of the smallest exponent, or is the power
    of two above them. -/
theorem first_cut_bounds {num den k : Nat} {e : Int} (hfit : 2 ^ 52 ≤ num / den ∨ e ≤ -1074)
    (hcut : e + k = cutExponent (num / den) e) :
    roundDiv num (den * 2 ^ k) .toEven ≤ 2 ^ 53 ∧
      (e + k = -1074 ∨ 2 ^ 52 ≤ roundDiv num (den * 2 ^ k) .toEven) := by
  obtain ⟨hshort, hlead⟩ := cut_bounds hfit hcut
  have hlow := div_le_roundDiv num (den * 2 ^ k) .toEven
  have hhigh := roundDiv_le num (den * 2 ^ k) .toEven
  rw [← Nat.div_div_eq_div_mul] at hlow hhigh
  exact ⟨by omega, hlead.imp_right fun h => h.trans hlow⟩

/-- **What is left of a significand is its rounded value.** The significand stands for a quotient, and it
    is long enough or below the smallest exponent. -/
theorem roundWithAccuracy_value (s : Sign) {m num den : Nat} {e : Int} {acc : Accuracy}
    (hrep : Represents (ExtendedMantissa.ofMantissaAndAccuracy m acc) num den) (hnum : 0 < num)
    (hden : 0 < den) (hfit : 2 ^ 52 ≤ m ∨ e ≤ -1074) :
    ∃ m' e', Regular m' e' ∧ dyadic m' e' = roundPos (num / den * 2 ^ e) ∧
      Binary.ofUnpacked (roundWithAccuracy Format.binary64 s m e acc) =
        .finite (isNegative s) m' e' := by
  have hm := eq_div_of_represents hrep
  subst hm
  obtain ⟨k, hk⟩ : ∃ k, (cutExponent (num / den) e - e).toNat = k := ⟨_, rfl⟩
  have hcut := add_cut hfit hk
  have hvalue := dyadic_first_cut hnum hden hfit hcut
  obtain ⟨hhigh, hlead⟩ := first_cut_bounds hfit hcut
  have hfirst := shiftToTargetExponent_cut acc hk
  have hrounded := (hrep.shiftRight hden k).roundedMantissa_eq
    (Nat.mul_pos hden (Nat.two_pow_pos k))
  generalize roundDiv num (den * 2 ^ k) .toEven = r at hvalue hhigh hlead hrounded
  have hmin : -1074 ≤ e + (k : Int) := by
    rw [hcut]
    exact le_max_right _ _
  obtain ⟨m', e', hreg, hsame, hmant, hexp⟩ := exists_second_cut hhigh hmin hlead
  refine ⟨m', e', hreg, hsame.trans hvalue, ?_⟩
  -- The result carries a proof about its significand, so the cuts are put in one component at a time.
  have hcuts : roundWithAccuracy Format.binary64 s (num / den) e acc =
      if h : (shiftToTargetExponent Format.binary64 r (e + k) .exact).1.mantissa = 0
      then .zero s
      else .finite s (shiftToTargetExponent Format.binary64 r (e + k) .exact).1.mantissa
        (shiftToTargetExponent Format.binary64 r (e + k) .exact).2 (Nat.pos_of_ne_zero h) := by
    unfold roundWithAccuracy
    rw [hfirst]
    subst hrounded
    rfl
  rw [hcuts]
  by_cases hzero : (shiftToTargetExponent Format.binary64 r (e + k) .exact).1.mantissa = 0
  · rw [dif_pos hzero]
    -- Nothing is left only on the grid of the smallest exponent.
    rw [hmant] at hzero
    have hlast : e' = -1074 := hreg.leading.resolve_right (by omega)
    rw [hzero, hlast]
    rfl
  · rw [dif_neg hzero, ← hmant, ← hexp]
    rfl

end Decimal
end Infochart
