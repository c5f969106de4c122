import Mathlib.Tactic.NormNum
import Infochart.Proofs.Decimal.Digits
import Infochart.Proofs.Decimal.Order

/-!
# Numerals as rounded decimals

The conversion of `m · 10 ^ e` looks small powers of ten up and multiplies or divides by them, gives an
infinity or zero where the exponent is far out of range, and otherwise computes with the whole power as
a significand. Each of these ways rounds the exact decimal once (`isRounded_ofScientific`). So **the value
of a numeral is what the rational is rounded to that its digits spell** (`Numeral.isRounded_value`), for
any number of digits and any exponent.
-/

namespace Infochart
namespace Decimal

open Float.Model (UnpackedFloat Format)
open Float.Model.UnpackedFloat

/-! ## Numbers out of range -/

section Range

variable {x : Float} {v : ℚ}

/-- Where the conversion gives up because the exponent is too large, the exact decimal lies above all
    numbers, and an infinity is what it is rounded to. -/
theorem isRounded_of_large (hx : Binary.ofFloat x = .infinite false) (h : 2 ^ 1024 ≤ v) :
    IsRounded x v := by
  have hv : 0 ≤ v := (pow_pos two_pos 1024).le.trans h
  have hle : 2 ^ 1024 ≤ |rounding v| := by
    rw [abs_of_nonneg (rounding_nonneg hv), ← rounding_two_pow 1024]
    exact rounding_mono h
  refine ⟨fun hin => absurd hin (not_lt.2 hle), fun _ => ?_⟩
  rw [hx, decide_eq_false (not_lt.2 hv)]

/-- What lies below half of the smallest number is rounded to zero. -/
theorem rounding_eq_zero (hv : 0 < v) (h : v < 2 ^ (-1075 : Int)) : rounding v = 0 := by
  have hgrid : gridExponent v = -1074 := by
    have hlt : v < 2 ^ (-1074 + 53 : Int) :=
      h.trans (zpow_lt_zpow_right₀ one_lt_two (by decide))
    exact le_antisymm (gridExponent_le hv hlt (le_refl _)) (le_max_right ..)
  have hhalf : v / 2 ^ (-1074 : Int) < 1 / 2 := by
    rw [div_lt_iff₀ (two_zpow_pos _)]
    calc v < 2 ^ (-1075 : Int) := h
      _ = 2 ^ (-1 : Int) * 2 ^ (-1074 : Int) := zpow_add₀ two_ne_zero (-1) (-1074)
      _ = 1 / 2 * 2 ^ (-1074 : Int) := by rw [zpow_neg_one, one_div]
  have hzero : nearestEven (v / 2 ^ (-1074 : Int)) = 0 := by
    have hclose := abs_nearestEven_sub_le (div_nonneg hv.le (two_zpow_pos (-1074)).le)
    have hlt : (nearestEven (v / 2 ^ (-1074 : Int)) : ℚ) < 1 := by
      linarith [(abs_le.1 hclose).2]
    exact Nat.lt_one_iff.1 (by exact_mod_cast hlt)
  rw [rounding_of_nonneg hv.le, roundPos, hgrid, hzero, dyadic_zero]

theorem isRounded_of_small (hx : value? x = some 0) (hv : 0 < v) (h : v < 2 ^ (-1075 : Int)) :
    IsRounded x v := by
  have hzero := rounding_eq_zero hv h
  refine ⟨fun _ => ?_, fun hnot => ?_⟩
  · rw [hx, hzero]
  · rw [hzero, abs_zero] at hnot
    exact absurd (pow_pos two_pos 1024) hnot

/-- Rounding is symmetric about zero. -/
theorem IsRounded.neg (h : IsRounded x v) : IsRounded (-x) (-v) := by
  have habs : |rounding (-v)| = |rounding v| := by
    rw [rounding_neg, abs_neg]
  refine ⟨fun hin => ?_, fun hnot => ?_⟩
  · rw [habs] at hin
    rw [rounding_neg]
    exact value?_neg (h.value hin)
  · rw [habs] at hnot
    have hne : v ≠ 0 := by
      rintro rfl
      rw [rounding_zero, abs_zero] at hnot
      exact hnot (pow_pos two_pos 1024)
    have hx := unpack_of_infinite (h.infinite hnot)
    have hmodel : -x = .ofModel (.pack (UnpackedFloat.neg x.toModel.unpack)) := rfl
    have hsign : decide (-v < 0) = !decide (v < 0) := by
      rw [← decide_not]
      refine decide_eq_decide.2 ?_
      rw [neg_lt_zero, not_lt]
      exact ⟨LT.lt.le, fun hle => lt_of_le_of_ne hle hne.symm⟩
    rw [hmodel, hx, hsign]
    show Binary.ofFloat (.ofModel (.pack (.infinity (-signOf (decide (v < 0)))))) = _
    rw [ofFloat_pack_infinity]
    cases decide (v < 0) <;> rfl

end Range

/-! ## Powers of ten -/

theorem ten_zpow_pos (e : Int) : (0 : ℚ) < 10 ^ e :=
  zpow_pos (by norm_num) e

theorem two_zpow_le_ten_zpow {e : Int} (he : 0 ≤ e) : (2 : ℚ) ^ e ≤ 10 ^ e :=
  zpow_le_zpow_left₀ he (by norm_num) (by norm_num)

theorem ten_zpow_le_two_zpow {e : Int} (he : e ≤ 0) : (10 : ℚ) ^ e ≤ 2 ^ e := by
  have h := two_zpow_le_ten_zpow (Int.neg_nonneg.2 he)
  rw [zpow_neg, zpow_neg] at h
  exact (inv_le_inv₀ (two_zpow_pos e) (ten_zpow_pos e)).1 h

/-- A power of ten above the range of 64 bits. The sizes at which `nearest` answers without computing leave
    room to spare, so this bound and the next need not be sharp. -/
theorem two_zpow_top_le : (2 : ℚ) ^ 1024 ≤ 10 ^ (310 : Int) := by
  have hle : 2 ^ 1024 ≤ 10 ^ 310 := by decide +kernel
  exact_mod_cast hle

/-- A power of ten below it. -/
theorem ten_zpow_bottom_le : (10 : ℚ) ^ (-327 : Int) ≤ 2 ^ (-1075 : Int) := by
  have hle : 2 ^ 1075 ≤ 10 ^ 327 := by decide +kernel
  have hcast : (2 : ℚ) ^ (1075 : Int) ≤ 10 ^ (327 : Int) := by exact_mod_cast hle
  rw [zpow_neg, zpow_neg]
  exact inv_anti₀ (two_zpow_pos 1075) hcast

/-- The powers of ten in the table are exact. -/
theorem isExactly_table : ∀ e, (h : e < Float.exactlyRepresentablePowersOfTen.size) →
    isExactly Float.exactlyRepresentablePowersOfTen[e] (10 ^ e) = true := by
  decide +kernel

theorem value?_of_isExactly {x : Float} {n : Nat} (h : isExactly x n = true) :
    value? x = some (n : ℚ) := by
  obtain ⟨m, e, hx, -, -, -, -, hvalue⟩ := exists_of_isExactly h
  unfold value?
  rw [hx, ← hvalue]
  rfl

/-- An integer of at most 53 bits is converted exactly. -/
theorem value?_toFloat {m : Nat} (h : m < 2 ^ 53) : value? m.toUInt64.toFloat = some (m : ℚ) := by
  rcases Nat.eq_zero_or_pos m with rfl | hm
  · have hzero : Binary.ofFloat (Nat.toUInt64 0).toFloat = .finite false 0 (-1074) := by
      decide +kernel
    unfold value?
    rw [hzero, Nat.cast_zero]
    exact congrArg some (dyadic_zero _)
  · obtain ⟨hlow, hhigh⟩ := two_pow_le_shifted hm h
    have hlog : m.log2 < 53 := (Nat.log2_lt (Nat.pos_iff_ne_zero.1 hm)).2 h
    have hexp : (m.log2 : Int) - 52 = -((52 - m.log2 : Nat) : Int) := by omega
    have hs : Shifted m (m * 2 ^ (52 - m.log2)) (-((52 - m.log2 : Nat) : Int)) :=
      .left (by omega) hlow hhigh
    unfold value?
    rw [ofFloat_toFloat hm h, hexp, ← hs.dyadic_eq]
    rfl

/-! ## The conversion -/

theorem dyadic_whole (m : Nat) : dyadic m 0 = m := by
  unfold dyadic
  rw [zpow_zero, mul_one]

/-- A power of ten as a significand; the other one has 53 zeros behind it, so no bit is missing. -/
theorem isRounded_mul_power {m n k : Nat} (hm : 0 < m <<< 53) (hn : 0 < n) (hpower : n = 10 ^ k) :
    IsRounded (.ofModel (.pack (mul Format.binary64 (.finite .positive (m <<< 53) (-53) hm)
      (.finite .positive n 0 hn)))) (m * 10 ^ k) := by
  subst hpower
  have hlong : 2 ^ 52 ≤ m <<< 53 * 10 ^ k := by
    have hle := Nat.le_mul_of_pos_right (m <<< 53) hn
    rw [Nat.shiftLeft_eq] at hm hle ⊢
    omega
  have hvalue : dyadic (m <<< 53) (-53) * dyadic (10 ^ k) 0 = m * 10 ^ k := by
    have hsplit := dyadic_add m (-53) 53
    rw [Nat.shiftLeft_eq, ← hsplit, dyadic_whole, Nat.cast_pow, Nat.cast_ofNat]
    exact congrArg (· * _) (dyadic_whole m)
  rw [← hvalue]
  exact isRounded_mul_finite .positive .positive hm hn (.inl hlong)

theorem isRounded_div_power {m n k : Nat} (hm : 0 < m) (hn : 0 < n) (hpower : n = 10 ^ k) :
    IsRounded (.ofModel (.pack (div Format.binary64 (.finite .positive m 0 hm)
      (.finite .positive n 0 hn)))) (m / 10 ^ k) := by
  subst hpower
  have hvalue : dyadic m 0 / dyadic (10 ^ k) 0 = m / 10 ^ k := by
    rw [dyadic_whole, dyadic_whole, Nat.cast_pow, Nat.cast_ofNat]
  rw [← hvalue]
  exact isRounded_div_finite .positive .positive hm hn

/-- The general way, for every exponent. Far out of range powers of two are bounds enough: with the same
    exponent a power of ten is greater above one and smaller below it. -/
theorem isRounded_unpacked {m : Nat} (hm : 0 < m) (e : Int) :
    IsRounded (.ofModel (.ofScientific m e)) (m * 10 ^ e) := by
  have hone : (1 : ℚ) ≤ m := by exact_mod_cast hm
  have hlog : (m : ℚ) < 2 ^ ((m.log2 : Int) + 1) := by
    have hlt : m < 2 ^ (m.log2 + 1) := Nat.lt_log2_self
    exact_mod_cast hlt
  unfold Float.Model.ofScientific UnpackedFloat.ofScientific
  rw [dif_neg (Nat.pos_iff_ne_zero.1 hm)]
  by_cases hlarge : e > 2 ^ 11
  · rw [if_pos hlarge]
    refine isRounded_of_large (ofFloat_pack_infinity .positive) ?_
    calc (2 : ℚ) ^ 1024 = 2 ^ (1024 : Int) := (zpow_natCast 2 1024).symm
      _ ≤ 2 ^ e := zpow_le_zpow_right₀ one_le_two (by omega)
      _ ≤ 10 ^ e := two_zpow_le_ten_zpow (by omega)
      _ ≤ m * 10 ^ e := le_mul_of_one_le_left (ten_zpow_pos e).le hone
  rw [if_neg hlarge]
  by_cases hsmall : e < -(2 ^ 11 + m.log2)
  · rw [if_pos hsmall]
    refine isRounded_of_small (StandsFor.zero .positive).value_pack
      (mul_pos (one_pos.trans_le hone) (ten_zpow_pos e)) ?_
    calc (m : ℚ) * 10 ^ e ≤ m * 2 ^ e :=
          mul_le_mul_of_nonneg_left (ten_zpow_le_two_zpow (by omega)) (zero_le_one.trans hone)
      _ < 2 ^ ((m.log2 : Int) + 1) * 2 ^ e := mul_lt_mul_of_pos_right hlog (two_zpow_pos e)
      _ = 2 ^ ((m.log2 : Int) + 1 + e) := (zpow_add₀ two_ne_zero _ _).symm
      _ ≤ 2 ^ (-1075 : Int) := zpow_le_zpow_right₀ one_le_two (by omega)
  rw [if_neg hsmall]
  rcases Int.lt_or_le e 0 with hneg | hnonneg
  · obtain ⟨k, rfl⟩ := Int.exists_eq_neg_ofNat hneg.le
    rw [if_neg (not_le.2 hneg), zpow_neg, zpow_natCast, ← div_eq_mul_inv]
    exact isRounded_div_power hm _ (by rw [neg_neg, Int.toNat_natCast])
  · obtain ⟨k, rfl⟩ := Int.eq_ofNat_of_zero_le hnonneg
    rw [if_pos hnonneg, zpow_natCast]
    exact isRounded_mul_power _ _ (by rw [Int.toNat_natCast])

/-- The short way: the power is looked up. A significand of 53 bits and a power of the table are both exact,
    so the one operation between them is the only place where something is rounded. -/
theorem isRounded_table {m e : Nat} (hm : m < 2 ^ 53)
    (he : e < Float.exactlyRepresentablePowersOfTen.size) :
    IsRounded (m.toUInt64.toFloat * Float.exactlyRepresentablePowersOfTen[e]) (m * 10 ^ e) ∧
      IsRounded (m.toUInt64.toFloat / Float.exactlyRepresentablePowersOfTen[e]) (m / 10 ^ e) := by
  have hsignificand := value?_toFloat hm
  have hpower := value?_of_isExactly (isExactly_table e he)
  rw [Nat.cast_pow, Nat.cast_ofNat] at hpower
  exact ⟨isRounded_mul hsignificand hpower,
    isRounded_div hsignificand hpower (pow_ne_zero e (by norm_num))⟩

theorem isRounded_ofScientific_nonneg (m e : Nat) :
    IsRounded (Float.ofScientific m false e) (m * 10 ^ e) := by
  unfold Float.ofScientific
  by_cases hfast : m < 2 ^ 53 ∧ e ≤ 22
  · rw [dif_pos hfast]
    exact (isRounded_table hfast.1 (Nat.lt_succ_of_le hfast.2)).1
  · rw [dif_neg hfast]
    rcases Nat.eq_zero_or_pos m with rfl | hm
    · rw [Nat.cast_zero, zero_mul]
      exact (StandsFor.zero .positive).isRounded
    · have h := isRounded_unpacked hm (Int.ofNat e)
      rw [Int.ofNat_eq_natCast, zpow_natCast] at h
      exact h

/-- The conversion of a natural number rounds it. -/
theorem isRounded_ofNat (n : Nat) : IsRounded (Float.ofNat n) n := by
  have h := isRounded_ofScientific_nonneg n 0
  rw [pow_zero, mul_one] at h
  exact h

theorem isRounded_ofScientific_neg (m e : Nat) :
    IsRounded (Float.ofScientific m true e) (m / 10 ^ e) := by
  unfold Float.ofScientific
  by_cases hfast : m < 2 ^ 53 ∧ e ≤ 22
  · rw [dif_pos hfast]
    exact (isRounded_table hfast.1 (Nat.lt_succ_of_le hfast.2)).2
  · rw [dif_neg hfast]
    rcases Nat.eq_zero_or_pos m with rfl | hm
    · rw [Nat.cast_zero, zero_div]
      exact (StandsFor.zero .positive).isRounded
    · have h := isRounded_unpacked hm (Int.negOfNat e)
      rw [Int.negOfNat_eq, Int.ofNat_eq_natCast, zpow_neg, zpow_natCast, ← div_eq_mul_inv] at h
      exact h

/-- **The conversion of a decimal rounds it.** -/
theorem isRounded_ofScientific (m : Nat) (e : Int) :
    IsRounded (Float.ofScientific m (e < 0) e.natAbs) (m * 10 ^ e) := by
  rcases Int.lt_or_le e 0 with hneg | hnonneg
  · obtain ⟨k, rfl⟩ := Int.exists_eq_neg_ofNat hneg.le
    rw [decide_eq_true hneg, Int.natAbs_neg, Int.natAbs_natCast, zpow_neg, zpow_natCast,
      ← div_eq_mul_inv]
    exact isRounded_ofScientific_neg m k
  · obtain ⟨k, rfl⟩ := Int.eq_ofNat_of_zero_le hnonneg
    rw [decide_eq_false (not_lt.2 hnonneg), Int.natAbs_natCast, zpow_natCast]
    exact isRounded_ofScientific_nonneg m k

/-! ## Numerals -/

/-- How many digits a number has. -/
theorem toDigits_bounds {m : Nat} (hm : 0 < m) :
    10 ^ ((Nat.toDigits 10 m).length - 1) ≤ m ∧ m < 10 ^ (Nat.toDigits 10 m).length := by
  have hpos : 0 < (Nat.toDigits 10 m).length := Nat.length_toDigits_pos
  refine ⟨?_, (Nat.length_toDigits_le_iff (by decide) hpos).1 (le_refl _)⟩
  by_cases hone : (Nat.toDigits 10 m).length = 1
  · rw [hone]
    exact hm
  · by_contra hlt
    have hle := (Nat.length_toDigits_le_iff (b := 10) (k := (Nat.toDigits 10 m).length - 1)
      (by decide) (by omega)).2 (not_le.1 hlt)
    omega

/-- **The nearest number**, whatever the exponent. -/
theorem isRounded_nearest (m : Nat) (e : Int) : IsRounded (nearest m e) (m * 10 ^ e) := by
  unfold nearest
  simp only
  rcases Nat.eq_zero_or_pos m with rfl | hm
  · rw [if_pos rfl, Nat.cast_zero, zero_mul]
    exact isRounded_of_value value?_zero
  rw [if_neg (Nat.pos_iff_ne_zero.1 hm)]
  obtain ⟨hlow, hhigh⟩ := toDigits_bounds hm
  have hlength : 0 < (Nat.toDigits 10 m).length := Nat.length_toDigits_pos
  generalize (Nat.toDigits 10 m).length = size at hlow hhigh hlength ⊢
  by_cases hlarge : 310 < (size + e : Int)
  · rw [if_pos hlarge]
    have hinf : Binary.ofFloat infinity = .infinite false := by decide +kernel
    have hm' : (10 : ℚ) ^ ((size - 1 : Nat) : Int) ≤ m := by
      exact_mod_cast hlow
    refine isRounded_of_large hinf ?_
    calc (2 : ℚ) ^ 1024 ≤ 10 ^ (310 : Int) := two_zpow_top_le
      _ ≤ 10 ^ (((size - 1 : Nat) : Int) + e) := zpow_le_zpow_right₀ (by norm_num) (by omega)
      _ = 10 ^ ((size - 1 : Nat) : Int) * 10 ^ e := zpow_add₀ (by norm_num) _ _
      _ ≤ m * 10 ^ e := mul_le_mul_of_nonneg_right hm' (ten_zpow_pos e).le
  rw [if_neg hlarge]
  by_cases hsmall : (size + e : Int) < -326
  · rw [if_pos hsmall]
    have hm' : (m : ℚ) < 10 ^ (size : Int) := by exact_mod_cast hhigh
    refine isRounded_of_small value?_zero (mul_pos (Nat.cast_pos.2 hm) (ten_zpow_pos e)) ?_
    calc (m : ℚ) * 10 ^ e < 10 ^ (size : Int) * 10 ^ e :=
          mul_lt_mul_of_pos_right hm' (ten_zpow_pos e)
      _ = 10 ^ ((size : Int) + e) := (zpow_add₀ (by norm_num) _ _).symm
      _ ≤ 10 ^ (-327 : Int) := zpow_le_zpow_right₀ (by norm_num) (by omega)
      _ ≤ 2 ^ (-1075 : Int) := ten_zpow_bottom_le
  rw [if_neg hsmall]
  exact isRounded_ofScientific m e

/-- The rational that a numeral spells: its digits before and behind the point, with the sign, times the
    power of ten. -/
def Numeral.exact (n : Numeral) : ℚ :=
  withSign n.negative ((ofDigits n.whole + ofDigits n.fraction / 10 ^ n.fraction.length) *
    10 ^ (if n.negativeExponent then -(ofDigits n.exponent : Int) else ofDigits n.exponent))

theorem Numeral.exact_eq (n : Numeral) :
    n.exact = withSign n.negative (n.significand * 10 ^ n.power) := by
  unfold Numeral.exact Numeral.significand Numeral.power
  rw [ofDigits_append, zpow_sub₀ (by norm_num), zpow_natCast]
  push_cast
  congr 1
  field_simp

/-- **The value of a numeral is what it is rounded to.** -/
theorem Numeral.isRounded_value (n : Numeral) : IsRounded n.value n.exact := by
  have h := isRounded_nearest n.significand n.power
  rw [n.exact_eq]
  unfold Numeral.value withSign
  simp only
  split
  · exact h.neg
  · exact h

end Decimal
end Infochart
