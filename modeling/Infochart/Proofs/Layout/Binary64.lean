import Infochart.Layout.Scale
import Infochart.Proofs.Decimal.Scientific

/-!
# Numbers that compute as those of 64 bits

Layouts are stated over any scale. `Binary64` is what they may rely on where that scale has 64 bits:
finite numbers are rationals, arithmetic is exact arithmetic followed by `rounding`, and the functions
of the circle stay between minus one and one. `Within k` bounds a number by a power of two; bounds are
carried through every operation, so that a number is seen to be finite by counting.
-/

namespace Infochart.Layout

open Decimal (rounding)

/-- What is computed for an exact result: the rounded number or, where that is out of range, none. What
    is out of range below zero is less than every number. -/
structure Computed {α : Type} [LT α] (value? : α → Option ℚ) (x : α) (v : ℚ) : Prop where
  value : |rounding v| < 2 ^ 1024 → value? x = some (rounding v)
  overflow : ¬ |rounding v| < 2 ^ 1024 → value? x = none
  below : rounding v ≤ -2 ^ 1024 → ∀ y w, value? y = some w → x < y ∧ ¬ y < x

class Binary64 (α : Type) [Scale α] where
  /-- The rational that a finite number is. -/
  value? : α → Option ℚ
  isFinite_iff (x : α) : Scale.isFinite x = true ↔ ∃ v, value? x = some v
  /-- Numbers are on the grid and in range. -/
  kept {x : α} {v : ℚ} : value? x = some v → rounding v = v ∧ |v| < 2 ^ 1024
  lt_iff {x y : α} {v w : ℚ} : value? x = some v → value? y = some w → (x < y ↔ v < w)
  le_iff {x y : α} {v w : ℚ} : value? x = some v → value? y = some w → (x ≤ y ↔ v ≤ w)
  natCast (n : Nat) : Computed value? (n : α) n
  add {x y : α} {v w : ℚ} : value? x = some v → value? y = some w → Computed value? (x + y) (v + w)
  sub {x y : α} {v w : ℚ} : value? x = some v → value? y = some w → Computed value? (x - y) (v - w)
  mul {x y : α} {v w : ℚ} : value? x = some v → value? y = some w → Computed value? (x * y) (v * w)
  div {x y : α} {v w : ℚ} : value? x = some v → value? y = some w → w ≠ 0 →
    Computed value? (x / y) (v / w)
  /-- Infinities do not vanish in sums and products. -/
  finite_of_add {x y : α} : Scale.isFinite (x + y) = true →
    Scale.isFinite x = true ∧ Scale.isFinite y = true
  finite_of_mul {x y : α} : Scale.isFinite (x * y) = true →
    Scale.isFinite x = true ∧ Scale.isFinite y = true
  pi : ∃ v, value? Scale.pi = some v ∧ |v| ≤ 4
  cos {x : α} {v : ℚ} : value? x = some v → ∃ w, value? (Scale.cos x) = some w ∧ |w| ≤ 1
  sin {x : α} {v : ℚ} : value? x = some v → ∃ w, value? (Scale.sin x) = some w ∧ |w| ≤ 1

/-! ## Binary numbers -/

/-- Binary numbers with functions of the circle in place of the built-in ones. -/
@[reducible] def circled (cos sin : Float → Float) : Scale Float :=
  { (inferInstance : Scale Float) with
    cos := cos
    sin := sin }

theorem computed_of_isRounded {x : Float} {v : ℚ} (h : Decimal.IsRounded x v) :
    Computed Decimal.value? x v where
  value := h.value
  overflow := fun hlarge => congrArg Decimal.Binary.value? (h.infinite hlarge)
  below := by
    intro hlow y w hy
    have hlarge : ¬ |rounding v| < 2 ^ 1024 := by
      rw [not_lt, ← abs_neg]
      exact (le_neg.2 hlow).trans (le_abs_self _)
    have hneg : v < 0 := by
      by_contra hnot
      have hpos := Decimal.rounding_nonneg (not_lt.1 hnot)
      have htop : (0 : ℚ) < 2 ^ 1024 := pow_pos two_pos _
      exact absurd (hpos.trans hlow) (not_le.2 (neg_lt_zero.2 htop))
    have hinf := h.infinite hlarge
    rw [decide_eq_true hneg] at hinf
    exact Decimal.lt_of_infinite hinf hy

/-- A function of the circle maps finite numbers to numbers from minus one to one. -/
def StaysInUnit (f : Float → Float) : Prop :=
  ∀ x, Decimal.isFinite x = true → -1 ≤ f x ∧ f x ≤ 1

theorem value?_natCast_one : Decimal.value? 1 = some 1 := by
  have h := (Decimal.isRounded_ofNat 1).value
  rw [Nat.cast_one, Decimal.rounding_one, abs_one] at h
  exact h (one_lt_pow₀ one_lt_two (by decide))

theorem value?_neg_one : Decimal.value? (-1) = some (-1) := by
  have h := (Decimal.standsFor_unpack value?_natCast_one).neg.value_pack
  exact h

theorem StaysInUnit.exists_value {f : Float → Float} (hf : StaysInUnit f) {x : Float} {v : ℚ}
    (hx : Decimal.value? x = some v) : ∃ w, Decimal.value? (f x) = some w ∧ |w| ≤ 1 := by
  obtain ⟨hlow, hhigh⟩ := hf x (Decimal.isFinite_iff.2 ⟨v, hx⟩)
  obtain ⟨w, hw⟩ := Decimal.exists_value_of_le value?_neg_one value?_natCast_one hlow hhigh
  refine ⟨w, hw, abs_le.2 ⟨?_, ?_⟩⟩
  · exact (Decimal.le_iff_of_value value?_neg_one hw).1 hlow
  · exact (Decimal.le_iff_of_value hw value?_natCast_one).1 hhigh

theorem ofFloat_pi : Decimal.Binary.ofFloat 3.141592653589793 =
    .finite false 7074237752028440 (-51) := by
  decide +kernel

/-- **Binary numbers compute as those of 64 bits.** -/
@[reducible] def binary64 {cos sin : Float → Float} (hcos : StaysInUnit cos)
    (hsin : StaysInUnit sin) : @Binary64 Float (circled cos sin) :=
  letI := circled cos sin
  { value? := Decimal.value?
    isFinite_iff := fun _ => Decimal.isFinite_iff
    kept := fun h => ⟨Decimal.rounding_of_value h, Decimal.abs_lt_of_value h⟩
    lt_iff := Decimal.lt_iff_of_value
    le_iff := Decimal.le_iff_of_value
    natCast := fun n => computed_of_isRounded (Decimal.isRounded_ofNat n)
    add := fun hx hy => computed_of_isRounded (Decimal.isRounded_add hx hy)
    sub := fun hx hy => computed_of_isRounded (Decimal.isRounded_sub hx hy)
    mul := fun hx hy => computed_of_isRounded (Decimal.isRounded_mul hx hy)
    div := fun hx hy hw => computed_of_isRounded (Decimal.isRounded_div hx hy hw)
    finite_of_add := Decimal.isFinite_of_add
    finite_of_mul := Decimal.isFinite_of_mul
    pi := by
      refine ⟨_, congrArg Decimal.Binary.value? ofFloat_pi, ?_⟩
      unfold Decimal.withSign Decimal.dyadic
      norm_num
    cos := hcos.exists_value
    sin := hsin.exists_value }

end Infochart.Layout
