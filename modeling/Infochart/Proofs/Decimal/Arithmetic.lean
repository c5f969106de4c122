import Infochart.Proofs.Decimal.Operations

/-!
# Arithmetic on finite numbers

The operations of 64 bits as roundings, the order of finite numbers as that of the rationals, and what
infinities do: they are above or below all finite numbers, and no sum or product that they enter is
finite.

These are the laws that layouts are proved from. They are stated on numbers and their values, so the
unpacked form with its significands and exponents is not seen outside.
-/

namespace Infochart
namespace Decimal

open Float.Model (UnpackedFloat Format)
open Float.Model.UnpackedFloat

variable {x y : Float} {v w : ℚ}

/-! ## Operations -/

theorem isRounded_add (hx : value? x = some v) (hy : value? y = some w) :
    IsRounded (x + y) (v + w) :=
  (standsFor_unpack hx).add (standsFor_unpack hy)

/-- A difference is a sum with a sign turned, also where zeros have signs. -/
theorem isRounded_sub (hx : value? x = some v) (hy : value? y = some w) :
    IsRounded (x - y) (v - w) := by
  have h := (standsFor_unpack hx).add (standsFor_unpack hy).neg
  rw [← unpacked_sub, ← sub_eq_add_neg] at h
  exact h

theorem isRounded_mul (hx : value? x = some v) (hy : value? y = some w) :
    IsRounded (x * y) (v * w) :=
  (standsFor_unpack hx).mul (standsFor_unpack hy)

theorem isRounded_div (hx : value? x = some v) (hy : value? y = some w) (hw : w ≠ 0) :
    IsRounded (x / y) (v / w) :=
  (standsFor_unpack hx).div (standsFor_unpack hy) hw

/-! ## Order -/

/-- A number with a greater exponent is greater, because its significand has a leading bit: significands
    without one are found at the smallest exponent only, and that is not the greater of two. -/
theorem dyadic_lt_of_exponent {m n : Nat} {e f : Int} (hc : Binary.Canonical m e)
    (hd : Binary.Canonical n f) (h : e < f) : dyadic m e < dyadic n f := by
  have hm : (m : ℚ) < 2 ^ (53 : Int) := by exact_mod_cast hc.lt
  have hn : (2 : ℚ) ^ (52 : Int) ≤ n := by
    have hle : 2 ^ 52 ≤ n := hd.leading.resolve_left (by
      have hlow := hc.low
      omega)
    exact_mod_cast hle
  calc dyadic m e < 2 ^ (53 : Int) * 2 ^ e := mul_lt_mul_of_pos_right hm (two_zpow_pos e)
    _ = 2 ^ (53 + e) := (zpow_add₀ two_ne_zero _ _).symm
    _ ≤ 2 ^ (52 + f) := zpow_le_zpow_right₀ one_le_two (by omega)
    _ = 2 ^ (52 : Int) * 2 ^ f := zpow_add₀ two_ne_zero _ _
    _ ≤ dyadic n f := mul_le_mul_of_nonneg_right hn (two_zpow_pos f).le

theorem dyadic_lt_iff_lt {m n : Nat} {e : Int} : dyadic m e < dyadic n e ↔ m < n := by
  unfold dyadic
  rw [mul_lt_mul_iff_of_pos_right (two_zpow_pos e), Nat.cast_lt]

theorem dyadic_pos {m : Nat} {e : Int} (hm : 0 < m) : 0 < dyadic m e :=
  mul_pos (Nat.cast_pos.2 hm) (two_zpow_pos e)

/-- How two rationals compare. The case of equality follows from the other two, and is left out. -/
structure Compares (o : Ordering) (v w : ℚ) : Prop where
  lt_iff : o = .lt ↔ v < w
  gt_iff : o = .gt ↔ w < v

theorem Compares.lt (h : v < w) : Compares .lt v w :=
  ⟨by simp [h], by simp [h.le]⟩

theorem Compares.gt (h : w < v) : Compares .gt v w :=
  ⟨by simp [h.le], by simp [h]⟩

theorem Compares.refl (v : ℚ) : Compares .eq v v :=
  ⟨by simp, by simp⟩

theorem Compares.neg_swap {o : Ordering} (h : Compares o v w) : Compares o.swap (-v) (-w) := by
  obtain ⟨hlt, hgt⟩ := h
  refine ⟨?_, ?_⟩
  · rw [neg_lt_neg_iff, ← hgt]
    cases o <;> decide
  · rw [neg_lt_neg_iff, ← hlt]
    cases o <;> decide

/-- Numbers compare by their exponents first. -/
theorem compares_dyadic {m n : Nat} {e f : Int} (hc : Binary.Canonical m e)
    (hd : Binary.Canonical n f) :
    Compares ((compare e f).then (compare m n)) (dyadic m e) (dyadic n f) := by
  rcases Int.lt_trichotomy e f with hlt | rfl | hgt
  · rw [Int.compare_eq_lt.2 hlt]
    exact .lt (dyadic_lt_of_exponent hc hd hlt)
  · rw [Int.compare_eq_eq.2 rfl]
    rcases Nat.lt_trichotomy m n with hlt | rfl | hgt
    · rw [Nat.compare_eq_lt.2 hlt]
      exact .lt (dyadic_lt_iff_lt.2 hlt)
    · rw [Nat.compare_eq_eq.2 rfl]
      exact .refl _
    · rw [Nat.compare_eq_gt.2 hgt]
      exact .gt (dyadic_lt_iff_lt.2 hgt)
  · rw [Int.compare_eq_gt.2 hgt]
    exact .gt (dyadic_lt_of_exponent hd hc hgt)

/-- Zeros of both signs are equal, so the sign is looked at only where a number is not zero. -/
theorem StandsFor.compares {a b : UnpackedFloat} (ha : StandsFor a v) (hb : StandsFor b w) :
    ∃ o, a.compare b = some o ∧ Compares o v w := by
  cases ha with
  | zero s =>
    cases hb with
    | zero t => exact ⟨.eq, rfl, .refl 0⟩
    | finite t hn hd =>
      rename_i n f
      have hn' : 0 < dyadic n f := dyadic_pos hn
      cases t with
      | positive => exact ⟨.lt, rfl, .lt hn'⟩
      | negative => exact ⟨.gt, rfl, .gt (neg_lt_zero.2 hn')⟩
  | finite s hm hc =>
    rename_i m e
    have hm' : 0 < dyadic m e := dyadic_pos hm
    cases hb with
    | zero t =>
      cases s with
      | positive => exact ⟨.gt, rfl, .gt hm'⟩
      | negative => exact ⟨.lt, rfl, .lt (neg_lt_zero.2 hm')⟩
    | finite t hn hd =>
      rename_i n f
      have hn' : 0 < dyadic n f := dyadic_pos hn
      have hcompare := compares_dyadic hc hd
      cases s with
      | positive =>
        cases t with
        | positive => exact ⟨_, rfl, hcompare⟩
        | negative => exact ⟨.gt, rfl, .gt ((neg_lt_zero.2 hn').trans hm')⟩
      | negative =>
        cases t with
        | positive => exact ⟨.lt, rfl, .lt ((neg_lt_zero.2 hm').trans hn')⟩
        | negative => exact ⟨_, rfl, hcompare.neg_swap⟩

/-- **Finite numbers are ordered as the rationals that they are.** -/
theorem lt_iff_of_value (hx : value? x = some v) (hy : value? y = some w) : x < y ↔ v < w := by
  obtain ⟨o, hcompare, ho⟩ := (standsFor_unpack hx).compares (standsFor_unpack hy)
  have hdef : x < y ↔ decide (x.toModel.unpack.lt y.toModel.unpack = true) = true := Iff.rfl
  rw [hdef, decide_eq_true_iff, ← ho.lt_iff]
  unfold UnpackedFloat.lt
  rw [hcompare, beq_iff_eq, Option.some_inj]

theorem le_iff_of_value (hx : value? x = some v) (hy : value? y = some w) : x ≤ y ↔ v ≤ w := by
  obtain ⟨o, hcompare, ho⟩ := (standsFor_unpack hx).compares (standsFor_unpack hy)
  have hdef : x ≤ y ↔ decide (x.toModel.unpack.le y.toModel.unpack = true) = true := Iff.rfl
  rw [hdef, decide_eq_true_iff, ← not_lt, ← ho.gt_iff]
  unfold UnpackedFloat.le
  rw [hcompare]
  cases o <;> decide

/-! ## Infinities -/

theorem unpack_of_infinite {negative : Bool} (h : Binary.ofFloat x = .infinite negative) :
    x.toModel.unpack = .infinity (signOf negative) := by
  rw [Binary.ofFloat_eq] at h
  cases hu : x.toModel.unpack with
  | infinity s =>
    rw [hu] at h
    cases h
    rw [signOf_isNegative]
  | notANumber =>
    rw [hu] at h
    cases h
  | zero s =>
    rw [hu] at h
    cases h
  | finite s m e hm =>
    rw [hu] at h
    cases h

/-- What is infinite below zero is less than every finite number. -/
theorem lt_of_infinite (hx : Binary.ofFloat x = .infinite true) (hy : value? y = some w) :
    x < y ∧ ¬ y < x := by
  have hu := unpack_of_infinite hx
  have hdef : ∀ a b : Float, a < b ↔ decide (a.toModel.unpack.lt b.toModel.unpack = true) = true :=
    fun _ _ => Iff.rfl
  have hs := standsFor_unpack hy
  rw [hdef, hdef, hu]
  generalize y.toModel.unpack = b at hs
  cases hs with
  | zero s => exact ⟨rfl, Bool.false_ne_true⟩
  | finite s hm hc => cases s <;> exact ⟨rfl, Bool.false_ne_true⟩

/-- What lies between two finite numbers is finite. -/
theorem exists_value_of_le {a b : Float} (ha : value? a = some v) (hb : value? b = some w)
    (hax : a ≤ x) (hxb : x ≤ b) : ∃ u, value? x = some u := by
  have hdef : ∀ c d : Float, c ≤ d ↔ c.toModel.unpack.le d.toModel.unpack = true :=
    fun _ _ => decide_eq_true_iff
  rw [hdef] at hax hxb
  rw [← isFinite_iff]
  unfold Decimal.isFinite
  rw [Binary.ofFloat_eq]
  have hsa := standsFor_unpack ha
  have hsb := standsFor_unpack hb
  generalize a.toModel.unpack = a at hsa hax
  generalize b.toModel.unpack = b at hsb hxb
  cases hx : x.toModel.unpack with
  | zero s => rfl
  | finite s m e hm => rfl
  | notANumber =>
    rw [hx] at hxb
    cases hxb
  | infinity s =>
    rw [hx] at hax hxb
    cases s with
    | positive => cases hsb <;> cases hxb
    | negative =>
      cases hsa with
      | zero t => cases hax
      | finite t hm hc => cases t <;> cases hax

theorem isFinite_unpack (x : Float) : Decimal.isFinite x = x.toModel.unpack.isFinite := by
  unfold Decimal.isFinite
  rw [Binary.ofFloat_eq]
  cases x.toModel.unpack <;> rfl

theorem isFinite_of_pack {u : UnpackedFloat} (h : Decimal.isFinite (.ofModel (.pack u)) = true) :
    u.isFinite = true := by
  unfold Decimal.isFinite at h
  cases u with
  | notANumber =>
    rw [ofFloat_pack_notANumber] at h
    cases h
  | infinity s =>
    rw [ofFloat_pack_infinity] at h
    cases h
  | zero s => rfl
  | finite s m e hm => rfl

/-- **A sum is finite only if both numbers are.** -/
theorem isFinite_of_add (h : Decimal.isFinite (x + y) = true) :
    Decimal.isFinite x = true ∧ Decimal.isFinite y = true := by
  have hadd : (UnpackedFloat.add Format.binary64 x.toModel.unpack y.toModel.unpack).isFinite =
      true := isFinite_of_pack h
  rw [isFinite_unpack, isFinite_unpack]
  generalize x.toModel.unpack = a at hadd
  generalize y.toModel.unpack = b at hadd
  cases a <;> cases b <;> try exact ⟨rfl, rfl⟩
  all_goals
    unfold UnpackedFloat.add at hadd
    simp only at hadd
    first
      | cases hadd
      | (split at hadd <;> cases hadd)

/-- A product is finite only if both numbers are. -/
theorem isFinite_of_mul (h : Decimal.isFinite (x * y) = true) :
    Decimal.isFinite x = true ∧ Decimal.isFinite y = true := by
  have hmul : (UnpackedFloat.mul Format.binary64 x.toModel.unpack y.toModel.unpack).isFinite =
      true := isFinite_of_pack h
  rw [isFinite_unpack, isFinite_unpack]
  generalize x.toModel.unpack = a at hmul
  generalize y.toModel.unpack = b at hmul
  cases a <;> cases b <;> try exact ⟨rfl, rfl⟩
  all_goals cases hmul

end Decimal
end Infochart
