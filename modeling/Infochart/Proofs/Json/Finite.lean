import Infochart.Proofs.Decimal.Scientific
import Infochart.Proofs.Json.Number

/-!
# Values of literals are finite

A literal that has a value has a finite one: a product that overflows is refused, and a quotient of a
significand of 64 bits by a power of ten cannot overflow. So the strict format has no way to write an
infinity.
-/

namespace Infochart
namespace Json

open Decimal (value?)

/-! ## Significands -/

/-- Whatever characters are collected, the significand has 64 bits. -/
theorem significand_collectWhole_lt (ds : List Char) : (collectWhole ds).significand < 2 ^ 64 := by
  induction ds using List.reverseRecOn with
  | nil => exact Nat.two_pow_pos 64
  | append_singleton ds c ih =>
    rw [collectWhole_concat]
    split
    case isTrue => exact ih
    case isFalse hfit =>
      rw [Bool.or_eq_true, decide_eq_true_eq, not_or] at hfit
      exact Nat.lt_of_not_le hfit.2

theorem significand_collectFraction_lt {start : Collected} (hstart : start.significand < 2 ^ 64)
    (ds : List Char) : (collectFraction start ds).significand < 2 ^ 64 := by
  induction ds using List.reverseRecOn with
  | nil => exact hstart
  | append_singleton ds c ih =>
    rw [collectFraction_concat]
    split
    case isTrue => exact ih
    case isFalse hfit =>
      rw [Bool.or_eq_true, decide_eq_true_eq, not_or] at hfit
      exact Nat.lt_of_not_le hfit.2

/-! ## Scaling -/

/-- A finite number within the range of a significand. -/
def IsSmall (x : Float) : Prop :=
  ∃ v, value? x = some v ∧ 0 ≤ v ∧ v ≤ 2 ^ 64

theorem isSmall_ofNat {n : Nat} (hn : n ≤ 2 ^ 64) : IsSmall (Float.ofNat n) := by
  have habs : |(n : ℚ)| ≤ 2 ^ 64 := by
    rw [abs_of_nonneg (Nat.cast_nonneg n)]
    exact_mod_cast hn
  obtain ⟨hvalue, hle⟩ := (Decimal.isRounded_ofNat n).exists_value (by decide) habs
  exact ⟨_, hvalue, Decimal.rounding_nonneg (Nat.cast_nonneg n), (le_abs_self _).trans hle⟩

theorem power_le_safeBound : 10 ^ 308 ≤ Decimal.safeBound := by decide +kernel

/-- A power of ten in range is finite and at least one. -/
theorem value?_power {e : Nat} (he : e ≤ 308) :
    ∃ v, value? (Float.ofScientific 1 false e) = some v ∧ 1 ≤ v := by
  have hbound : 10 ^ e ≤ Decimal.safeBound :=
    (pow_le_pow_right₀ (by decide) he).trans power_le_safeBound
  obtain ⟨-, m, q, hx, hm, -, hq, -⟩ := Decimal.atMost_power hbound
  refine ⟨Decimal.dyadic m q, congrArg Decimal.Binary.value? hx, ?_⟩
  calc (1 : ℚ) = 2 ^ 52 * 2 ^ (-52 : Int) := by norm_num
    _ ≤ m * 2 ^ q := by
      refine mul_le_mul (by exact_mod_cast hm) (zpow_le_zpow_right₀ one_le_two hq) ?_ m.cast_nonneg
      exact zpow_nonneg two_pos.le _

/-- A product of numbers that are not negative is finite if it is below the infinity. -/
theorem value?_mul_of_lt {x y : Float} {v w : ℚ} (hx : value? x = some v) (hy : value? y = some w)
    (hv : 0 ≤ v) (hw : 0 ≤ w) (h : x * y < Decimal.infinity) : ∃ u, value? (x * y) = some u := by
  have hrounded := Decimal.isRounded_mul hx hy
  by_cases hrange : |Decimal.rounding (v * w)| < 2 ^ 1024
  · exact ⟨_, hrounded.value hrange⟩
  · have hinf := hrounded.infinite hrange
    rw [decide_eq_false (not_lt.2 (mul_nonneg hv hw))] at hinf
    rw [Decimal.lt_iff_unpack, Decimal.unpack_of_infinite hinf] at h
    cases h

/-- A quotient by a power of ten does not grow. -/
theorem IsSmall.div_power {x : Float} (h : IsSmall x) {e : Nat} (he : e ≤ 308) :
    IsSmall (x / Float.ofScientific 1 false e) := by
  obtain ⟨v, hx, hv, hle⟩ := h
  obtain ⟨w, hpower, hw⟩ := value?_power he
  have hpos : 0 < w := one_pos.trans_le hw
  have hnonneg : 0 ≤ v / w := div_nonneg hv hpos.le
  have habs : |v / w| ≤ 2 ^ 64 := by
    rw [abs_of_nonneg hnonneg]
    exact (div_le_self hv hw).trans hle
  obtain ⟨hvalue, hbound⟩ :=
    (Decimal.isRounded_div hx hpower hpos.ne').exists_value (by decide) habs
  exact ⟨_, hvalue, Decimal.rounding_nonneg hnonneg, (le_abs_self _).trans hbound⟩

theorem IsSmall.exists_value {x : Float} (h : IsSmall x) : ∃ v, value? x = some v := by
  obtain ⟨v, hx, -⟩ := h
  exact ⟨v, hx⟩

/-- **What scaling gives is finite.** -/
theorem value?_scale {n : Nat} {e : Int} {x : Float} (hn : n < 2 ^ 64) (h : scale n e = some x) :
    ∃ v, value? x = some v := by
  have hsmall : IsSmall (Float.ofScientific n false 0) := isSmall_ofNat hn.le
  unfold scale at h
  simp only at h
  split at h
  case isTrue he =>
    split at h
    case isTrue hle =>
      split at h
      case isTrue hlt =>
        cases h
        obtain ⟨v, hv, hnonneg, -⟩ := hsmall
        obtain ⟨w, hw, hone⟩ := value?_power (e := e.toNat) (by omega)
        exact value?_mul_of_lt hv hw hnonneg (zero_le_one.trans hone) hlt
      case isFalse => cases h
    case isFalse =>
      split at h
      case isTrue =>
        cases h
        exact hsmall.exists_value
      case isFalse => cases h
  case isFalse he =>
    split at h
    case isTrue hle =>
      cases h
      exact (hsmall.div_power (by omega)).exists_value
    case isFalse =>
      split at h
      case isTrue hle =>
        cases h
        exact ((hsmall.div_power le_rfl).div_power (by omega)).exists_value
      case isFalse =>
        cases h
        exact ⟨0, Decimal.value?_zero⟩

/-! ## Literals -/

theorem value?_signed {x : Float} {v : ℚ} (h : value? x = some v) (negative : Bool) :
    ∃ w, value? (if negative then -x else x) = some w := by
  cases negative with
  | false => exact ⟨v, h⟩
  | true => exact ⟨-v, Decimal.value?_neg h⟩

/-- A significand is scaled, or stands for zero where its power of ten is too small to be written. -/
theorem value?_scaled {n size : Nat} {e : Int} {minus : Bool} {x : Float} (hn : n < 2 ^ 64)
    (h : (if Nat.pow 2 31 ≤ size then if n ≠ 0 ∧ minus = false then none else some 0
      else scale n e) = some x) : ∃ v, value? x = some v := by
  split at h
  case isTrue =>
    split at h
    case isTrue => cases h
    case isFalse =>
      cases h
      exact ⟨0, Decimal.value?_zero⟩
  case isFalse => exact value?_scale hn h

theorem value?_real {l : Literal} {x : Float} (h : l.real? = some x) : ∃ v, value? x = some v := by
  unfold Literal.real? at h
  simp only at h
  obtain ⟨y, hy, rfl⟩ := Option.map_eq_some_iff.1 h
  obtain ⟨v, hv⟩ : ∃ v, value? y = some v := by
    refine value?_scaled ?_ hy
    have hwhole := significand_collectWhole_lt l.whole
    cases l.fraction with
    | none => exact hwhole
    | some ds => exact significand_collectFraction_lt hwhole ds
  exact value?_signed hv l.negative

/-- **A literal with a value is an integer of 64 bits or a finite number.** -/
theorem Literal.value?_cases {l : Literal} {v : Value} (h : l.value? = some v) :
    (∃ n : Int, v = .integer n ∧ n.natAbs ≤ 2 ^ 64) ∨
      ∃ x, v = .real x ∧ Decimal.isFinite x = true := by
  have hreal {v : Value} (h : l.real?.map .real = some v) :
      ∃ x, v = .real x ∧ Decimal.isFinite x = true := by
    obtain ⟨x, hx, rfl⟩ := Option.map_eq_some_iff.1 h
    exact ⟨x, rfl, Decimal.isFinite_iff.2 (value?_real hx)⟩
  unfold Literal.value? at h
  simp only at h
  split at h
  case isFalse => exact .inr (hreal h)
  case isTrue =>
    split at h
    case isTrue hsmall =>
      cases h
      exact .inl ⟨_, rfl, hsmall.2.le⟩
    case isFalse =>
      split at h
      case isTrue hsmall =>
        cases h
        refine .inl ⟨_, rfl, ?_⟩
        rw [Int.natAbs_neg]
        exact hsmall.2.2.trans (Nat.pow_le_pow_right (by decide) (by decide))
      case isFalse => exact .inr (hreal h)

end Json
end Infochart
