import Infochart.Proofs.Layout.Binary64

/-!
# Bounds on layout numbers

`Within k x` bounds a number by `2 ^ k`. The bound of a result is computed from those of its parts, and
is taken at its word only up to a thousand, far below the greatest exponent; so bounds are put together
without looking at the range, and looked at once, where finiteness is claimed. There the bounds are
numerals, and so the conditions on them are decided unless they are given.
-/

namespace Infochart.Layout

open Decimal (rounding)
open Binary64 (value?)

variable {α : Type} [Scale α] [Binary64 α]

/-! ## Values -/

theorem Computed.of_abs_le {x : α} {v : ℚ} {k : Nat} (h : Computed value? x v) (hk : k < 1024)
    (hv : |v| ≤ 2 ^ k) : value? x = some (rounding v) ∧ |rounding v| ≤ 2 ^ k := by
  have hle := Decimal.abs_rounding_le hv
  have hlt : (2 : ℚ) ^ k < 2 ^ 1024 := pow_lt_pow_right₀ one_lt_two hk
  exact ⟨h.value (hle.trans_lt hlt), hle⟩

/-- A computed number with a value has stayed in range: an overflow would have left it without one. -/
theorem Computed.eq_rounding {x : α} {u v : ℚ} (h : Computed value? x v) (hx : value? x = some u) :
    u = rounding v ∧ |rounding v| < 2 ^ 1024 := by
  by_cases hrange : |rounding v| < 2 ^ 1024
  · rw [h.value hrange] at hx
    exact ⟨(Option.some.inj hx).symm, hrange⟩
  · rw [h.overflow hrange] at hx
    cases hx

/-- A small natural number is kept. -/
theorem value?_natCast {n : Nat} (hn : n < 2 ^ 53) : value? (n : α) = some (n : ℚ) := by
  have hkept : rounding n = n := by
    have hvalue : Decimal.dyadic n 0 = n := by
      unfold Decimal.dyadic
      rw [zpow_zero, mul_one]
    rw [← hvalue]
    exact Decimal.rounding_dyadic hn (by decide)
  have hle : |(n : ℚ)| ≤ 2 ^ 53 := by
    rw [abs_of_nonneg (Nat.cast_nonneg n)]
    exact_mod_cast hn.le
  rw [← hkept]
  exact ((Binary64.natCast n).of_abs_le (by decide) hle).1

theorem value?_zero : value? (0 : α) = some 0 := by
  have h := value?_natCast (α := α) (n := 0) (by decide)
  rwa [Nat.cast_zero] at h

theorem value?_one : value? (1 : α) = some 1 := by
  have h := value?_natCast (α := α) (n := 1) (by decide)
  rwa [Nat.cast_one] at h

theorem isFinite_of_value {x : α} {v : ℚ} (h : value? x = some v) : Scale.isFinite x = true :=
  (Binary64.isFinite_iff x).2 ⟨v, h⟩

/-! ## Bounds -/

/-- Whether a number is at most `2 ^ k` in magnitude, as far as that can be said of 64 bits. That the
    exponent is small enough is a condition inside of it; as a hypothesis it would be a side condition of
    every rule for an operation, and of a long expression one for each step. -/
def Within (k : Nat) (x : α) : Prop :=
  k ≤ 1000 → ∃ v, value? x = some v ∧ |v| ≤ 2 ^ k

theorem within_of_value {x : α} {v : ℚ} {k : Nat} (h : value? x = some v) (hv : |v| ≤ 2 ^ k) :
    Within k x :=
  fun _ => ⟨v, h, hv⟩

theorem Computed.within {x : α} {v : ℚ} {k : Nat} (h : Computed value? x v) (hv : |v| ≤ 2 ^ k) :
    Within k x := by
  intro hk
  obtain ⟨hx, hle⟩ := h.of_abs_le (by omega) hv
  exact ⟨_, hx, hle⟩

/-- A natural number of 64 bits. -/
theorem within_natCast {n : Nat} (hn : n ≤ 2 ^ 64) : Within 64 (n : α) := by
  refine (Binary64.natCast n).within ?_
  rw [abs_of_nonneg (Nat.cast_nonneg n)]
  exact_mod_cast hn

namespace Within

variable {x y : α} {j k : Nat}

theorem isFinite (h : Within k x) (hk : k ≤ 1000 := by decide) : Scale.isFinite x = true := by
  obtain ⟨v, hx, -⟩ := h hk
  exact isFinite_of_value hx

theorem mono (h : Within j x) (hjk : j ≤ k := by decide) : Within k x := by
  intro hk
  obtain ⟨v, hx, hv⟩ := h (hjk.trans hk)
  exact ⟨v, hx, hv.trans (pow_le_pow_right₀ one_le_two hjk)⟩

theorem abs_le_max {v w : ℚ} (hv : |v| ≤ 2 ^ j) (hw : |w| ≤ 2 ^ k) :
    |v| + |w| ≤ 2 ^ (max j k + 1) := by
  have hv' : |v| ≤ 2 ^ max j k := hv.trans (pow_le_pow_right₀ one_le_two (le_max_left j k))
  have hw' : |w| ≤ 2 ^ max j k := hw.trans (pow_le_pow_right₀ one_le_two (le_max_right j k))
  rw [pow_succ]
  linarith

theorem add (hx : Within j x) (hy : Within k y) : Within (max j k + 1) (x + y) := by
  intro hk
  obtain ⟨v, hxv, hv⟩ := hx (by omega)
  obtain ⟨w, hyw, hw⟩ := hy (by omega)
  exact (Binary64.add hxv hyw).within ((abs_add_le v w).trans (abs_le_max hv hw)) hk

theorem sub (hx : Within j x) (hy : Within k y) : Within (max j k + 1) (x - y) := by
  intro hk
  obtain ⟨v, hxv, hv⟩ := hx (by omega)
  obtain ⟨w, hyw, hw⟩ := hy (by omega)
  exact (Binary64.sub hxv hyw).within ((abs_sub v w).trans (abs_le_max hv hw)) hk

theorem mul (hx : Within j x) (hy : Within k y) : Within (j + k) (x * y) := by
  intro hk
  obtain ⟨v, hxv, hv⟩ := hx (by omega)
  obtain ⟨w, hyw, hw⟩ := hy (by omega)
  refine (Binary64.mul hxv hyw).within ?_ hk
  rw [abs_mul, pow_add]
  exact mul_le_mul hv hw (abs_nonneg w) (pow_nonneg two_pos.le j)

/-- Dividing by a natural number other than zero makes nothing greater. -/
theorem div_natCast (hx : Within k x) {n : Nat} (hn : 0 < n := by decide)
    (hn' : n ≤ 2 ^ 64 := by decide) :
    Within k (x / (n : α)) := by
  intro hk
  obtain ⟨v, hxv, hv⟩ := hx hk
  have hone : (1 : ℚ) ≤ rounding n := by
    rw [← Decimal.rounding_one]
    exact Decimal.rounding_mono (by exact_mod_cast hn)
  have hyw : value? (n : α) = some (rounding n) := by
    refine ((Binary64.natCast n).of_abs_le (k := 64) (by decide) ?_).1
    rw [abs_of_nonneg (Nat.cast_nonneg n)]
    exact_mod_cast hn'
  refine (Binary64.div hxv hyw (by linarith)).within ?_ hk
  rw [abs_div, abs_of_nonneg (zero_le_one.trans hone)]
  exact (div_le_self (abs_nonneg v) hone).trans hv

theorem greater (hx : Within k x) (hy : Within k y) : Within k (greater x y) := by
  unfold Layout.greater
  split
  · exact hx
  · split
    · exact hy
    · exact hx

theorem lesser (hx : Within k x) (hy : Within k y) : Within k (lesser x y) := by
  unfold Layout.lesser
  split
  · exact hy
  · split
    · exact hx
    · exact hy

theorem cos (hx : Within k x) (hk : k ≤ 1000) : Within 0 (Scale.cos x) := by
  obtain ⟨v, hxv, -⟩ := hx hk
  obtain ⟨w, hw, hle⟩ := Binary64.cos hxv
  exact within_of_value hw hle

theorem sin (hx : Within k x) (hk : k ≤ 1000) : Within 0 (Scale.sin x) := by
  obtain ⟨v, hxv, -⟩ := hx hk
  obtain ⟨w, hw, hle⟩ := Binary64.sin hxv
  exact within_of_value hw hle

end Within

theorem within_pi : Within 2 (Scale.pi : α) := by
  obtain ⟨v, hv, hle⟩ := Binary64.pi (α := α)
  exact within_of_value hv (hle.trans (by norm_num))

end Infochart.Layout
