import Mathlib.Tactic.NormNum
import Mathlib.Tactic.Positivity
import Infochart.Proofs.Decimal.Exact

/-!
# Upper bounds through rounded arithmetic

`AtMost x r` says that `x` is a positive number, not smaller than one and not larger than `r`. A product
of two such numbers is one again if the product of their bounds stays below `2 ^ 1024`; its bound grows
by one rounding (`AtMost.mul`). With the conversions of integers and of powers of ten this bounds the
product that the reader of data forms, and a bounded number is smaller than infinity
(`AtMost.lt_infinity`).
-/

namespace Infochart
namespace Decimal

open Float.Model (UnpackedFloat Format)
open Float.Model.UnpackedFloat

/-- A number that is not smaller than one and not larger than `r`. -/
def AtMost (x : Float) (r : ℚ) : Prop :=
  ∃ m e, Binary.ofFloat x = .finite false m e ∧ 2 ^ 52 ≤ m ∧ m < 2 ^ 53 ∧ -52 ≤ e ∧ e ≤ 971 ∧
    dyadic m e ≤ r

theorem AtMost.mono {x : Float} {r s : ℚ} (h : AtMost x r) (hrs : r ≤ s) : AtMost x s := by
  obtain ⟨m, e, hx, hlow, hhigh, helow, hehigh, hr⟩ := h
  exact ⟨m, e, hx, hlow, hhigh, helow, hehigh, hr.trans hrs⟩

/-- A bound on a number with its leading bit bounds its exponent. -/
theorem exponent_lt {m k : Nat} {e : Int} (hlow : 2 ^ 52 ≤ m) (h : dyadic m e < 2 ^ k) :
    e + 52 < k := by
  have hm : (2 : ℚ) ^ (52 : Int) ≤ m := by exact_mod_cast hlow
  have hle : (2 : ℚ) ^ (e + 52) ≤ dyadic m e := by
    rw [zpow_add₀ two_ne_zero, mul_comm]
    exact mul_le_mul_of_nonneg_right hm (zpow_nonneg (by norm_num) e)
  have hlt : (2 : ℚ) ^ (e + 52) < 2 ^ (k : Int) := by
    rw [zpow_natCast]
    exact hle.trans_lt h
  exact (zpow_lt_zpow_iff_right₀ (by norm_num)).1 hlt

/-- **A rounded result is bounded if it stays below `2 ^ 1024`.** -/
theorem atMost_round {m : Nat} {e : Int} (hm : 2 ^ 52 ≤ m)
    (hone : -52 ≤ e + ((m.log2 - 52 : Nat) : Int))
    (hr : dyadic m e * (1 + unitRoundoff) < 2 ^ 1024) :
    AtMost (.ofModel (.pack (roundWithAccuracy Format.binary64 .positive m e .exact)))
      (dyadic m e * (1 + unitRoundoff)) := by
  have hne : m ≠ 0 := by omega
  have hlog : 52 ≤ m.log2 := (Nat.le_log2 hne).2 hm
  have hlow : 2 ^ (52 + (m.log2 - 52)) ≤ m := by
    rw [Nat.add_sub_cancel' hlog]
    exact Nat.log2_self_le hne
  have hhigh : m < 2 ^ (53 + (m.log2 - 52)) := by
    have hexp : 53 + (m.log2 - 52) = m.log2 + 1 := by omega
    rw [hexp]
    exact Nat.lt_log2_self
  obtain ⟨m', e', h, heq, hmin, hmax, hexp, hle⟩ :=
    roundWithAccuracy_le .positive hlow hhigh (e := e) (by omega)
  have hehigh := exponent_lt hmin (hle.trans_lt hr)
  refine ⟨m', e', ?_, hmin, hmax, by omega, by omega, hle⟩
  rw [heq]
  exact ofFloat_pack .positive h hmin hmax (by omega) (by omega)

/-- **A product of bounded numbers.** -/
theorem AtMost.mul {x y : Float} {r s : ℚ} (hx : AtMost x r) (hy : AtMost y s)
    (hrs : r * s * (1 + unitRoundoff) < 2 ^ 1024) :
    AtMost (x * y) (r * s * (1 + unitRoundoff)) := by
  obtain ⟨m, e, hxf, hmlow, hmhigh, helow, hehigh, hxr⟩ := hx
  obtain ⟨n, f, hyf, hnlow, hnhigh, hflow, hfhigh, hys⟩ := hy
  have hm : 0 < m := by omega
  have hn : 0 < n := by omega
  have hmodel : x * y = .ofModel (.pack (UnpackedFloat.mul Format.binary64 x.toModel.unpack
      y.toModel.unpack)) := rfl
  have hshape : x * y = .ofModel (.pack (roundWithAccuracy Format.binary64 .positive (m * n)
      (e + f) .exact)) := by
    rw [hmodel, unpack_of_finite hm hxf, unpack_of_finite hn hyf]
    rfl
  -- The product is longer than 53 bits, so it is rounded without losing its leading bit.
  have hprod : 2 ^ 104 ≤ m * n := by
    calc 2 ^ 104 = 2 ^ 52 * 2 ^ 52 := by norm_num
      _ ≤ m * n := Nat.mul_le_mul hmlow hnlow
  have hlog : 104 ≤ (m * n).log2 := (Nat.le_log2 (by omega)).2 hprod
  have hvalue : dyadic (m * n) (e + f) ≤ r * s := by
    rw [dyadic_mul]
    exact mul_le_mul hxr hys (dyadic_nonneg n f) ((dyadic_nonneg m e).trans hxr)
  have hunit : (0 : ℚ) ≤ 1 + unitRoundoff := by
    unfold unitRoundoff
    positivity
  have hgrow := mul_le_mul_of_nonneg_right hvalue hunit
  rw [hshape]
  exact (atMost_round (by omega) (by omega) (hgrow.trans_lt hrs)).mono hgrow

theorem AtMost.lt_infinity {x : Float} {r : ℚ} (h : AtMost x r) : x < infinity := by
  obtain ⟨m, e, hx, hlow, -⟩ := h
  have hm : 0 < m := by omega
  have hu := unpack_of_finite hm hx
  have hinf : infinity.toModel.unpack = .infinity .positive := rfl
  show decide (x.toModel < infinity.toModel) = true
  have hlt : x.toModel.unpack.lt infinity.toModel.unpack = true := by
    rw [hu, hinf]
    rfl
  exact decide_eq_true hlt

/-! ## Integers and powers of ten -/

/-- What a conversion rounds that takes the general way. -/
theorem ofScientific_model {n e : Nat} (hn : 0 < n) (he : e ≤ 308) :
    UnpackedFloat.ofScientific Format.binary64 n (Int.ofNat e) =
      roundWithAccuracy Format.binary64 .positive (n <<< 53 * 10 ^ e) (-53 + 0) .exact := by
  have hne : ¬ n = 0 := by omega
  have hbig : ¬ (Int.ofNat e > 2 ^ 11) := by
    show ¬ ((e : Int) > 2 ^ 11)
    omega
  have hsmall : ¬ (Int.ofNat e < -((2 ^ 11 : Int) + n.log2)) := by
    show ¬ ((e : Int) < -((2 ^ 11 : Int) + n.log2))
    omega
  have hnonneg : 0 ≤ Int.ofNat e := Int.natCast_nonneg e
  unfold UnpackedFloat.ofScientific
  rw [dif_neg hne, if_neg hbig, if_neg hsmall, if_pos hnonneg]
  rfl

theorem atMost_ofScientific_model {n e : Nat} (hn : 0 < n) (he : e ≤ 308)
    (hr : (n : ℚ) * 10 ^ e * (1 + unitRoundoff) < 2 ^ 1024) :
    AtMost (.ofModel (.ofScientific n (Int.ofNat e))) ((n : ℚ) * 10 ^ e * (1 + unitRoundoff)) := by
  have hten : 0 < 10 ^ e := Nat.pow_pos (by decide)
  have hlow : 2 ^ 53 ≤ n <<< 53 * 10 ^ e := by
    rw [Nat.shiftLeft_eq]
    calc 2 ^ 53 = 1 * 2 ^ 53 * 1 := by norm_num
      _ ≤ n * 2 ^ 53 * 10 ^ e := Nat.mul_le_mul (Nat.mul_le_mul_right _ hn) hten
  have hlog : 53 ≤ (n <<< 53 * 10 ^ e).log2 := (Nat.le_log2 (by omega)).2 hlow
  have hvalue : dyadic (n <<< 53 * 10 ^ e) (-53 + 0) = (n : ℚ) * 10 ^ e := by
    unfold dyadic
    rw [Nat.shiftLeft_eq]
    push_cast
    norm_num
    ring
  rw [← hvalue] at hr ⊢
  have h := atMost_round (by omega) (by omega) hr
  rw [← ofScientific_model hn he] at h
  exact h

theorem one_le_one_add_unitRoundoff : (1 : ℚ) ≤ 1 + unitRoundoff := by
  unfold unitRoundoff
  norm_num

/-- The conversion of an integer of more than 53 bits takes the general way. -/
theorem ofScientific_zero {n : Nat} (h : ¬ n < 2 ^ 53) :
    Float.ofScientific n false 0 = .ofModel (.ofScientific n (Int.ofNat 0)) := by
  unfold Float.ofScientific
  rw [dif_neg fun hand => h hand.1]
  rfl

/-- A natural number of at most 64 bits. -/
theorem atMost_nat {n : Nat} (hn : 0 < n) (h : n < 2 ^ 64) :
    AtMost (Float.ofScientific n false 0) (n * (1 + unitRoundoff)) := by
  -- Up to 53 bits the conversion is exact, beyond them it rounds once.
  by_cases hlt : n < 2 ^ 53
  · obtain ⟨m, e, hs, hf⟩ := exists_shifted hn hlt.le
    obtain ⟨hlow, hhigh, helow, hehigh⟩ := hs.bounds
    refine ⟨m, e, hf, hlow, hhigh, helow, by omega, ?_⟩
    rw [hs.dyadic_eq]
    exact le_mul_of_one_le_right (Nat.cast_nonneg n) one_le_one_add_unitRoundoff
  · have hbound : (n : ℚ) * 10 ^ 0 * (1 + unitRoundoff) < 2 ^ 1024 := by
      have hcast : (n : ℚ) ≤ 2 ^ 64 := by exact_mod_cast h.le
      calc (n : ℚ) * 10 ^ 0 * (1 + unitRoundoff)
          ≤ 2 ^ 64 * 10 ^ 0 * (1 + unitRoundoff) := by
            unfold unitRoundoff
            gcongr
        _ < 2 ^ 65 := by
            unfold unitRoundoff
            norm_num
        _ ≤ 2 ^ 1024 := pow_le_pow_right₀ (by norm_num) (by norm_num)
    rw [ofScientific_zero hlt]
    have hslow := atMost_ofScientific_model hn (by decide) hbound
    rwa [pow_zero, mul_one] at hslow

/-- Whether a number is a given natural number, and one with a leading one. -/
def isExactly (x : Float) (n : Nat) : Bool :=
  match Binary.ofFloat x with
  | .finite false m e =>
    2 ^ 52 ≤ m && m < 2 ^ 53 && -52 ≤ e && e ≤ 971 && m * 2 ^ (e + 52).toNat = n * 2 ^ 52
  | _ => false

/-- The powers of ten that are looked up are exact. -/
theorem isExactly_power : ∀ e < 23, isExactly (Float.ofScientific 1 false e) (10 ^ e) = true := by
  decide +kernel

theorem exists_of_isExactly {x : Float} {n : Nat} (h : isExactly x n = true) :
    ∃ m e, Binary.ofFloat x = .finite false m e ∧ 2 ^ 52 ≤ m ∧ m < 2 ^ 53 ∧ -52 ≤ e ∧ e ≤ 971 ∧
      dyadic m e = n := by
  unfold isExactly at h
  split at h
  · rename_i m e hx
    simp only [Bool.and_eq_true, decide_eq_true_eq] at h
    obtain ⟨⟨⟨⟨hlow, hhigh⟩, helow⟩, hehigh⟩, heq⟩ := h
    refine ⟨m, e, hx, hlow, hhigh, helow, hehigh, ?_⟩
    have he : e = -52 + (e + 52).toNat := by omega
    rw [he, dyadic_add, heq, ← dyadic_add]
    unfold dyadic
    norm_num
  · cases h

theorem atMost_of_isExactly {x : Float} {n : Nat} (h : isExactly x n = true) : AtMost x n := by
  obtain ⟨m, e, hx, hlow, hhigh, helow, hehigh, hvalue⟩ := exists_of_isExactly h
  exact ⟨m, e, hx, hlow, hhigh, helow, hehigh, hvalue.le⟩

/-- A bound that three roundings do not lead beyond the range of binary numbers. -/
def safeBound : Nat :=
  (2 ^ 53 - 3) * 2 ^ 971

theorem safeBound_lt_pow : safeBound < 10 ^ 309 := by decide +kernel

theorem safeBound_lt : (safeBound : ℚ) * (1 + unitRoundoff) ^ 3 < 2 ^ 1024 := by
  have hsplit : (2 : ℚ) ^ 1024 = 2 ^ 53 * 2 ^ 971 := by rw [← pow_add]
  have hcast : (safeBound : ℚ) = (2 ^ 53 - 3) * 2 ^ 971 := by
    unfold safeBound
    rw [Nat.cast_mul, Nat.cast_pow, Nat.cast_sub (by norm_num)]
    norm_num
  have hcoeff : ((2 : ℚ) ^ 53 - 3) * (1 + unitRoundoff) ^ 3 < 2 ^ 53 := by
    unfold unitRoundoff
    norm_num
  rw [hcast, hsplit, mul_right_comm]
  exact mul_lt_mul_of_pos_right hcoeff (by positivity)

/-- A power of ten in the range of binary numbers. -/
theorem atMost_power {e : Nat} (he : 10 ^ e ≤ safeBound) :
    e ≤ 308 ∧ AtMost (Float.ofScientific 1 false e) (10 ^ e * (1 + unitRoundoff)) := by
  have hunit := one_le_one_add_unitRoundoff
  have hpos : (0 : ℚ) ≤ 10 ^ e := by positivity
  have hrange : e ≤ 308 := by
    have hlt : e < 309 :=
      (pow_lt_pow_iff_right₀ (by decide : 1 < 10)).1 (he.trans_lt safeBound_lt_pow)
    omega
  refine ⟨hrange, ?_⟩
  -- The small powers are looked up and exact; the others are computed and rounded once.
  by_cases hlt : e < 23
  · have hexact := atMost_of_isExactly (isExactly_power e hlt)
    rw [Nat.cast_pow] at hexact
    exact hexact.mono (le_mul_of_one_le_right hpos hunit)
  · have hslow : Float.ofScientific 1 false e = .ofModel (.ofScientific 1 (Int.ofNat e)) := by
      unfold Float.ofScientific
      rw [dif_neg (by omega)]
      rfl
    have hcast : (10 : ℚ) ^ e ≤ safeBound := by exact_mod_cast he
    have hone : ((1 : Nat) : ℚ) * 10 ^ e * (1 + unitRoundoff) = 10 ^ e * (1 + unitRoundoff) := by
      rw [Nat.cast_one, one_mul]
    have hbound : 10 ^ e * (1 + unitRoundoff) < 2 ^ 1024 := by
      have hcube := mul_le_mul hcast (le_self_pow₀ hunit three_ne_zero)
        (zero_le_one.trans hunit) (Nat.cast_nonneg safeBound)
      exact hcube.trans_lt safeBound_lt
    rw [hslow]
    rw [← hone] at hbound ⊢
    exact atMost_ofScientific_model Nat.one_pos hrange hbound

/-- **The product of an integer of 64 bits and a power of ten does not overflow if it is bounded.** -/
theorem mul_power_lt_infinity {n e : Nat} (hn : 0 < n) (h : n < 2 ^ 64)
    (hbound : n * 10 ^ e ≤ safeBound) :
    e ≤ 308 ∧ Float.ofScientific n false 0 * Float.ofScientific 1 false e < infinity := by
  obtain ⟨he, hpower⟩ := atMost_power ((Nat.le_mul_of_pos_left _ hn).trans hbound)
  have hcast : (n : ℚ) * 10 ^ e ≤ safeBound := by exact_mod_cast hbound
  have hvalue : n * (1 + unitRoundoff) * (10 ^ e * (1 + unitRoundoff)) * (1 + unitRoundoff) =
      (n * 10 ^ e) * (1 + unitRoundoff) ^ 3 := by ring
  have hunit : (0 : ℚ) ≤ (1 + unitRoundoff) ^ 3 :=
    pow_nonneg (zero_le_one.trans one_le_one_add_unitRoundoff) 3
  have hfit : n * (1 + unitRoundoff) * (10 ^ e * (1 + unitRoundoff)) * (1 + unitRoundoff) <
      2 ^ 1024 := by
    rw [hvalue]
    exact (mul_le_mul_of_nonneg_right hcast hunit).trans_lt safeBound_lt
  exact ⟨he, ((atMost_nat hn h).mul hpower hfit).lt_infinity⟩

end Decimal
end Infochart
