import Infochart.Proofs.Decimal.Arithmetic

/-!
# The order of all numbers

Finite numbers are ordered as rationals. Here stands what holds beyond them: an infinity is above or below
every finite number, and what is undefined stands in no order to anything, not even to itself. So a number
that is above another one is defined, but it need not be finite.
-/

namespace Infochart
namespace Decimal

open Float.Model (UnpackedFloat)
open Float.Model.UnpackedFloat

variable {x y : Float} {v w : ℚ}

/-! ## The order of unpacked numbers -/

theorem lt_iff_unpack : x < y ↔ x.toModel.unpack.lt y.toModel.unpack = true :=
  decide_eq_true_iff

theorem le_iff_unpack : x ≤ y ↔ x.toModel.unpack.le y.toModel.unpack = true :=
  decide_eq_true_iff

/-- What is less is less or equal, although the converse of either may fail. -/
theorem le_of_lt (h : x < y) : x ≤ y := by
  rw [lt_iff_unpack] at h
  rw [le_iff_unpack]
  unfold UnpackedFloat.lt at h
  unfold UnpackedFloat.le
  rw [beq_iff_eq.1 h]
  rfl

/-! ## Undefined numbers -/

theorem unpack_of_undefined (h : Binary.ofFloat x = .undefined) : x.toModel.unpack = .notANumber := by
  rw [Binary.ofFloat_eq] at h
  cases hu : x.toModel.unpack with
  | notANumber => rfl
  | infinity s =>
    rw [hu] at h
    cases h
  | zero s =>
    rw [hu] at h
    cases h
  | finite s m e hm =>
    rw [hu] at h
    cases h

/-- What is undefined is neither above nor below anything. -/
structure Unordered (x y : Float) : Prop where
  not_lt : ¬ x < y
  not_gt : ¬ y < x
  not_le : ¬ x ≤ y
  not_ge : ¬ y ≤ x

theorem unordered_of_undefined (h : Binary.ofFloat x = .undefined) (y : Float) : Unordered x y := by
  have hu := unpack_of_undefined h
  have hfront (b : UnpackedFloat) : UnpackedFloat.compare .notANumber b = none := rfl
  have hbehind (b : UnpackedFloat) : b.compare .notANumber = none := by
    cases b <;> rfl
  constructor
  · rw [lt_iff_unpack, hu, UnpackedFloat.lt, hfront]
    exact Bool.false_ne_true
  · rw [lt_iff_unpack, hu, UnpackedFloat.lt, hbehind]
    exact Bool.false_ne_true
  · rw [le_iff_unpack, hu, UnpackedFloat.le, hfront]
    exact Bool.false_ne_true
  · rw [le_iff_unpack, hu, UnpackedFloat.le, hbehind]
    exact Bool.false_ne_true

/-! ## The infinity above all finite numbers -/

theorem gt_of_infinite (hx : Binary.ofFloat x = .infinite false) (hy : value? y = some w) :
    y < x ∧ ¬ x < y := by
  have hu := unpack_of_infinite hx
  have hs := standsFor_unpack hy
  rw [lt_iff_unpack, lt_iff_unpack, hu]
  generalize y.toModel.unpack = b at hs
  cases hs with
  | zero s => exact ⟨rfl, Bool.false_ne_true⟩
  | finite s hm hc => cases s <;> exact ⟨rfl, Bool.false_ne_true⟩

/-! ## Numbers above a finite one -/

/-- A number above a finite one is finite unless it is the infinity above. -/
theorem isFinite_iff_of_lt (hy : value? y = some w) (h : y < x) :
    Decimal.isFinite x = true ↔ Binary.ofFloat x ≠ .infinite false := by
  unfold Decimal.isFinite
  cases hx : Binary.ofFloat x with
  | undefined => exact absurd h (unordered_of_undefined hx y).not_gt
  | infinite negative =>
    cases negative with
    | false => simp
    | true => exact absurd h (lt_of_infinite hx hy).2
  | finite negative m e => simp

theorem value?_zero : value? 0 = some 0 := by
  have hzero : Binary.ofFloat 0 = .finite false 0 (-1074) := by decide +kernel
  unfold value? Binary.value?
  rw [hzero]
  exact congrArg some (dyadic_zero _)

/-- A rounded result is finite if the exact one is within a power of two in range. -/
theorem IsRounded.exists_value {k : Nat} (h : IsRounded x v) (hk : k < 1024) (hv : |v| ≤ 2 ^ k) :
    value? x = some (rounding v) ∧ |rounding v| ≤ 2 ^ k := by
  have hle := abs_rounding_le hv
  have hlt : (2 : ℚ) ^ k < 2 ^ 1024 := pow_lt_pow_right₀ one_lt_two hk
  exact ⟨h.value (hle.trans_lt hlt), hle⟩

theorem value?_neg (h : value? x = some v) : value? (-x) = some (-v) :=
  (standsFor_unpack h).neg.value_pack

end Decimal
end Infochart
