import Infochart.Decimal.Text
import Infochart.Proofs.Decimal.Bounded
import Infochart.Proofs.Decimal.Cut

/-!
# Arithmetic as rounding

An operation on finite numbers computes its exact result and rounds it. `IsRounded x v` says that `x` is
what `v` is rounded to, with an infinity in place of what is out of range; sums, differences, products,
quotients and conversions are all of this form, subnormal numbers and zeros of both signs included.
Comparing numbers is comparing the rationals that they are. After this module arithmetic is spoken of
only through `value?` and `rounding`.

All operations end in the same step: a significand with a note on what was cut off behind it is rounded and
packed (`isRounded_roundWithAccuracy`). What an operation has to show for itself is that its significand is
long enough for that, with 53 bits at least or at the end of the grid; a shorter one would be rounded at
the wrong place.
-/

namespace Infochart
namespace Decimal

open Float.Model (UnpackedFloat Format totalExponent)
open Float.Model.UnpackedFloat

/-! ## The rational that a number is -/

/-- A number with a sign in front. -/
def withSign (negative : Bool) (v : ℚ) : ℚ :=
  if negative then -v else v

/-- The rational that a finite number is. -/
def Binary.value? : Binary → Option ℚ
  | .finite negative m e => some (withSign negative (dyadic m e))
  | _ => none

def value? (x : Float) : Option ℚ :=
  (Binary.ofFloat x).value?

theorem isFinite_iff {x : Float} : Decimal.isFinite x = true ↔ ∃ v, value? x = some v := by
  unfold Decimal.isFinite value? Binary.value?
  cases Binary.ofFloat x <;> simp

theorem abs_withSign {v : ℚ} (hv : 0 ≤ v) (negative : Bool) : |withSign negative v| = v := by
  cases negative with
  | false => exact abs_of_nonneg hv
  | true => exact (abs_neg v).trans (abs_of_nonneg hv)

theorem rounding_withSign {v : ℚ} (hv : 0 ≤ v) (negative : Bool) :
    rounding (withSign negative v) = withSign negative (roundPos v) := by
  rw [← rounding_of_nonneg hv]
  cases negative with
  | false => rfl
  | true => exact rounding_neg v

theorem withSign_mul (a b : Bool) (v w : ℚ) :
    withSign (a != b) (v * w) = withSign a v * withSign b w := by
  cases a <;> cases b <;> simp [withSign]

theorem withSign_div (a b : Bool) (v w : ℚ) :
    withSign (a != b) (v / w) = withSign a v / withSign b w := by
  cases a <;> cases b <;> simp [withSign, neg_div, div_neg]

/-- Whether an unpacked number is a rational, in the form that 64 bits hold. -/
inductive StandsFor : UnpackedFloat → ℚ → Prop
  | zero (s : Sign) : StandsFor (.zero s) 0
  | finite (s : Sign) {m : Nat} {e : Int} (hm : 0 < m) (hc : Binary.Canonical m e) :
    StandsFor (.finite s m e hm) (withSign (isNegative s) (dyadic m e))

theorem dyadic_zero (e : Int) : dyadic 0 e = 0 := by
  unfold dyadic
  rw [Nat.cast_zero, zero_mul]

theorem withSign_zero (negative : Bool) : withSign negative 0 = 0 := by
  cases negative <;> simp [withSign]

/-- What arithmetic sees of a finite number. A number is stored with its sign, exponent and fraction in
    fields, and is unpacked before anything is computed. -/
theorem standsFor_unpack {x : Float} {v : ℚ} (h : value? x = some v) :
    StandsFor x.toModel.unpack v := by
  unfold value? at h
  cases hx : Binary.ofFloat x with
  | undefined =>
    rw [hx] at h
    cases h
  | infinite negative =>
    rw [hx] at h
    cases h
  | finite negative m e =>
    rw [hx] at h
    cases h
    rcases Nat.eq_zero_or_pos m with rfl | hm
    · rw [Binary.ofFloat_eq] at hx
      rw [dyadic_zero, withSign_zero]
      cases hu : x.toModel.unpack with
      | zero s => exact .zero s
      | notANumber =>
        rw [hu] at hx
        cases hx
      | infinity s =>
        rw [hu] at hx
        cases hx
      | finite s m e hm =>
        rw [hu] at hx
        cases hx
        exact absurd hm (Nat.lt_irrefl 0)
    · have hs := StandsFor.finite (signOf negative) hm (Binary.canonical hm hx)
      have hsign : isNegative (signOf negative) = negative := by cases negative <;> rfl
      rw [unpack_of_finite hm hx]
      rwa [hsign] at hs

/-! ## Rounded results -/

/-- What a number is that `v` is rounded to: an infinity beyond the range of 64 bits. -/
structure IsRounded (x : Float) (v : ℚ) : Prop where
  value : |rounding v| < 2 ^ 1024 → value? x = some (rounding v)
  infinite : ¬ |rounding v| < 2 ^ 1024 → Binary.ofFloat x = .infinite (decide (v < 0))

/-- A number in range is what it is rounded to. -/
theorem StandsFor.rounding_eq {u : UnpackedFloat} {v : ℚ} (h : StandsFor u v) :
    rounding v = v ∧ |v| < 2 ^ 1024 := by
  cases h with
  | zero s =>
    rw [abs_zero]
    exact ⟨rounding_zero, pow_pos two_pos _⟩
  | finite s hm hc =>
    rw [rounding_withSign (dyadic_nonneg _ _), roundPos_dyadic hc.lt hc.low,
      abs_withSign (dyadic_nonneg _ _)]
    exact ⟨rfl, hc.regular.lt_two_pow_iff.2 hc.high⟩

theorem rounding_of_value {x : Float} {v : ℚ} (h : value? x = some v) : rounding v = v :=
  (standsFor_unpack h).rounding_eq.1

theorem abs_lt_of_value {x : Float} {v : ℚ} (h : value? x = some v) : |v| < 2 ^ 1024 :=
  (standsFor_unpack h).rounding_eq.2

/-- A number is what it is itself rounded to. -/
theorem isRounded_of_value {x : Float} {v : ℚ} (h : value? x = some v) : IsRounded x v := by
  have hsame := rounding_of_value h
  refine ⟨fun _ => ?_, fun hnot => ?_⟩
  · rw [hsame]
    exact h
  · rw [hsame] at hnot
    exact absurd (abs_lt_of_value h) hnot

/-- Packing keeps what a number stands for. -/
theorem StandsFor.value_pack {u : UnpackedFloat} {v : ℚ} (h : StandsFor u v) :
    value? (.ofModel (.pack u)) = some v := by
  unfold value?
  cases h with
  | zero s =>
    rw [ofFloat_pack_zero]
    show some (withSign (isNegative s) (dyadic 0 (-1074))) = some 0
    rw [dyadic_zero, withSign_zero]
  | finite s hm hc =>
    rename_i m e
    by_cases hlead : 2 ^ 52 ≤ m
    · rw [ofFloat_pack s hm hlead hc.lt hc.low hc.high]
      rfl
    · obtain rfl : e = -1074 := hc.leading.resolve_right hlead
      rw [ofFloat_pack_small s hm (Nat.lt_of_not_le hlead)]
      rfl

theorem StandsFor.isRounded {u : UnpackedFloat} {v : ℚ} (h : StandsFor u v) :
    IsRounded (.ofModel (.pack u)) v :=
  isRounded_of_value h.value_pack

/-- **Rounding and packing.** The number that comes out may be zero, finite or, after packing, infinite; it
    is told by its exponent which of the last two, and that is the range of `rounding`. -/
theorem isRounded_roundWithAccuracy (s : Sign) {m num den : Nat} {e : Int} {acc : Accuracy}
    (hrep : Represents (ExtendedMantissa.ofMantissaAndAccuracy m acc) num den) (hnum : 0 < num)
    (hden : 0 < den) (hfit : 2 ^ 52 ≤ m ∨ e ≤ -1074) :
    IsRounded (.ofModel (.pack (roundWithAccuracy Format.binary64 s m e acc)))
      (withSign (isNegative s) (num / den * 2 ^ e)) := by
  have hpos : (0 : ℚ) < num / den * 2 ^ e :=
    mul_pos (div_pos (Nat.cast_pos.2 hnum) (Nat.cast_pos.2 hden)) (two_zpow_pos e)
  obtain ⟨m', e', hreg, hvalue, hresult⟩ := roundWithAccuracy_value s hrep hnum hden hfit
  generalize roundWithAccuracy Format.binary64 s m e acc = u at hresult
  have habs : |rounding (withSign (isNegative s) (num / den * 2 ^ e))| = dyadic m' e' := by
    rw [rounding_withSign hpos.le, abs_withSign (roundPos_nonneg _), hvalue]
  have hnegative : decide (withSign (isNegative s) (num / den * 2 ^ e : ℚ) < 0) = isNegative s := by
    cases isNegative s with
    | false => exact decide_eq_false (not_lt.2 hpos.le)
    | true => exact decide_eq_true (neg_lt_zero.2 hpos)
  have hrange : |rounding (withSign (isNegative s) (num / den * 2 ^ e))| < 2 ^ 1024 ↔ e' ≤ 971 := by
    rw [habs]
    exact hreg.lt_two_pow_iff
  have hkept : rounding (withSign (isNegative s) (num / den * 2 ^ e)) =
      withSign (isNegative s) (dyadic m' e') := by
    rw [rounding_withSign hpos.le, hvalue]
  cases u with
  | notANumber => cases hresult
  | infinity t => cases hresult
  | zero t =>
    obtain ⟨hs, rfl, rfl⟩ : isNegative t = isNegative s ∧ 0 = m' ∧ -1074 = e' :=
      Binary.finite.inj hresult
    refine ⟨fun _ => ?_, fun hnot => absurd (hrange.2 (by decide)) hnot⟩
    rw [hkept, dyadic_zero, withSign_zero]
    exact (StandsFor.zero t).value_pack
  | finite t n f hn =>
    obtain ⟨hs, rfl, rfl⟩ : isNegative t = isNegative s ∧ n = m' ∧ f = e' :=
      Binary.finite.inj hresult
    refine ⟨fun hin => ?_, fun hnot => ?_⟩
    · rw [hkept, ← hs]
      exact (StandsFor.finite t hn
        ⟨hn, hreg.lt, hreg.low, hrange.1 hin, hreg.leading⟩).value_pack
    · have hlarge : 971 < f := Int.lt_of_not_ge fun hle => hnot (hrange.2 hle)
      rw [hnegative, ← hs]
      exact ofFloat_pack_overflow t hn hlarge

/-! ## Products and quotients -/

theorem isNegative_mul (s t : Sign) : isNegative (s * t) = (isNegative s != isNegative t) := by
  cases s <;> cases t <;> rfl

theorem isNegative_div (s t : Sign) : isNegative (s / t) = (isNegative s != isNegative t) := by
  cases s <;> cases t <;> rfl

/-- The product of two significands is rounded once. It is exact before that, so nothing is cut off. -/
theorem isRounded_mul_finite (s t : Sign) {m n : Nat} {e f : Int} (hm : 0 < m) (hn : 0 < n)
    (hfit : 2 ^ 52 ≤ m * n ∨ e + f ≤ -1074) :
    IsRounded (.ofModel (.pack (mul Format.binary64 (.finite s m e hm) (.finite t n f hn))))
      (withSign (isNegative s) (dyadic m e) * withSign (isNegative t) (dyadic n f)) := by
  have h := isRounded_roundWithAccuracy (s * t) (represents_exact (m * n)) (Nat.mul_pos hm hn)
    Nat.one_pos hfit
  have hvalue : (((m * n : Nat) : ℚ) / (1 : Nat) * 2 ^ (e + f)) = dyadic m e * dyadic n f := by
    rw [← dyadic_mul, Nat.cast_one, div_one]
    rfl
  rw [hvalue, isNegative_mul, withSign_mul] at h
  exact h

theorem StandsFor.mul {a b : UnpackedFloat} {v w : ℚ} (ha : StandsFor a v) (hb : StandsFor b w) :
    IsRounded (.ofModel (.pack (mul Format.binary64 a b))) (v * w) := by
  cases ha with
  | zero s =>
    rw [zero_mul]
    cases hb with
    | zero t => exact (StandsFor.zero (s * t)).isRounded
    | finite t hn hd => exact (StandsFor.zero (s * t)).isRounded
  | finite s hm hc =>
    cases hb with
    | zero t =>
      rw [mul_zero]
      exact (StandsFor.zero (s * t)).isRounded
    | finite t hn hd =>
      rename_i m e n f
      -- Of two significands without a leading bit the product lies below the smallest exponent.
      refine isRounded_mul_finite s t hm hn ?_
      rcases hc.leading with rfl | hlong
      · rcases hd.leading with rfl | hlong
        · exact .inr (by omega)
        · exact .inl (hlong.trans (Nat.le_mul_of_pos_left n hm))
      · exact .inl (hlong.trans (Nat.le_mul_of_pos_right m hn))

/-- The quotient is computed with as many bits as its grid has room for. -/
theorem divCore_eq (m : Nat) (e : Int) {n : Nat} (f : Int) (hn : 0 < n) (hm : 0 < m) :
    ∃ k : Nat, ∃ g : Int, divCore Format.binary64 m e n f =
        (m * 2 ^ k / n, g, accuracyOfFraction (m * 2 ^ k % n) n) ∧ g + k = e - f ∧
      (2 ^ 52 ≤ m * 2 ^ k / n ∨ g ≤ -1074) := by
  obtain ⟨g, hg⟩ : ∃ g, min (e - f) (Format.binary64.targetExponent
    (totalExponent m e - totalExponent n f)) = g := ⟨_, rfl⟩
  have htarget : min (e - f) (max ((m.log2 : Int) + 1 + e - (n.log2 + 1 + f) - 53) (-1074)) = g := hg
  refine ⟨(e - f - g).toNat, g, ?_, by omega, ?_⟩
  · unfold divCore
    simp only [hg, Nat.shiftLeft_eq]
  · by_cases hsmall : g ≤ -1074
    · exact .inr hsmall
    · refine .inl ?_
      have hexp : 52 + (n.log2 + 1) ≤ m.log2 + (e - f - g).toNat := by omega
      rw [Nat.le_div_iff_mul_le hn]
      calc 2 ^ 52 * n ≤ 2 ^ 52 * 2 ^ (n.log2 + 1) := Nat.mul_le_mul_left _ Nat.lt_log2_self.le
        _ = 2 ^ (52 + (n.log2 + 1)) := (Nat.pow_add ..).symm
        _ ≤ 2 ^ (m.log2 + (e - f - g).toNat) := Nat.pow_le_pow_right (by decide) hexp
        _ = 2 ^ m.log2 * 2 ^ (e - f - g).toNat := Nat.pow_add ..
        _ ≤ m * 2 ^ (e - f - g).toNat :=
          Nat.mul_le_mul_right _ (Nat.log2_self_le (Nat.pos_iff_ne_zero.1 hm))

/-- The quotient of two significands is rounded once. -/
theorem isRounded_div_finite (s t : Sign) {m n : Nat} {e f : Int} (hm : 0 < m) (hn : 0 < n) :
    IsRounded (.ofModel (.pack (div Format.binary64 (.finite s m e hm) (.finite t n f hn))))
      (withSign (isNegative s) (dyadic m e) / withSign (isNegative t) (dyadic n f)) := by
  obtain ⟨k, g, hcore, hexp, hfit⟩ := divCore_eq m e f hn hm
  have h := isRounded_roundWithAccuracy (s / t) (@represents_fraction (m * 2 ^ k) n hn)
    (Nat.mul_pos hm (Nat.two_pow_pos k)) hn hfit
  have hvalue : (((m * 2 ^ k : Nat) : ℚ) / n * 2 ^ g) = dyadic m e / dyadic n f := by
    have he : e = g + k + f := by omega
    have hf := (two_zpow_pos f).ne'
    unfold dyadic
    rw [he, zpow_add₀ two_ne_zero, zpow_add₀ two_ne_zero, zpow_natCast]
    push_cast
    field_simp
  rw [hvalue, isNegative_div, withSign_div] at h
  have hdiv : UnpackedFloat.div Format.binary64 (.finite s m e hm) (.finite t n f hn) =
      roundWithAccuracy Format.binary64 (s / t) (divCore Format.binary64 m e n f).1
        (divCore Format.binary64 m e n f).2.1 (divCore Format.binary64 m e n f).2.2 := rfl
  rw [hdiv, hcore]
  exact h

/-- Of the quotients by zero nothing is said, since they stand for no rational. -/
theorem StandsFor.div {a b : UnpackedFloat} {v w : ℚ} (ha : StandsFor a v) (hb : StandsFor b w)
    (hw : w ≠ 0) : IsRounded (.ofModel (.pack (div Format.binary64 a b))) (v / w) := by
  cases hb with
  | zero t => exact absurd rfl hw
  | finite t hn hd =>
    cases ha with
    | zero s =>
      rw [zero_div]
      exact (StandsFor.zero (s / t)).isRounded
    | finite s hm hc => exact isRounded_div_finite s t hm hn

/-! ## Sums and differences -/

/-- An exact significand of any length is rounded once. -/
theorem isRounded_round (s : Sign) {m : Nat} (hm : 0 < m) (e : Int) :
    IsRounded (.ofModel (.pack (UnpackedFloat.round Format.binary64 s m e)))
      (withSign (isNegative s) (dyadic m e)) := by
  obtain ⟨k, hk⟩ : ∃ k, (e - cutExponent m e).toNat = k := ⟨_, rfl⟩
  have hround : UnpackedFloat.round Format.binary64 s m e =
      roundWithAccuracy Format.binary64 s (m * 2 ^ k) (e - k) .exact := by
    unfold UnpackedFloat.round decreaseExponent
    simp only [targetExponent_eq, hk, Nat.shiftLeft_eq]
  -- A significand that is too short is made as long as its grid has room for.
  have hfit : 2 ^ 52 ≤ m * 2 ^ k ∨ e - k ≤ -1074 := by
    by_cases hsmall : e - k ≤ -1074
    · exact .inr hsmall
    · refine .inl ?_
      have hexp : 52 ≤ m.log2 + k := by
        unfold cutExponent at hk
        omega
      calc 2 ^ 52 ≤ 2 ^ (m.log2 + k) := Nat.pow_le_pow_right (by decide) hexp
        _ = 2 ^ m.log2 * 2 ^ k := Nat.pow_add ..
        _ ≤ m * 2 ^ k := Nat.mul_le_mul_right _ (Nat.log2_self_le (Nat.pos_iff_ne_zero.1 hm))
  have h := isRounded_roundWithAccuracy s (represents_exact (m * 2 ^ k))
    (Nat.mul_pos hm (Nat.two_pow_pos k)) Nat.one_pos hfit
  have hvalue : (((m * 2 ^ k : Nat) : ℚ) / (1 : Nat) * 2 ^ (e - k)) = dyadic m e := by
    have hsplit := dyadic_add m (e - k) k
    rw [Int.sub_add_cancel] at hsplit
    rw [hsplit, Nat.cast_one, div_one]
    rfl
  rw [hvalue] at h
  rw [hround]
  exact h

/-- A sum of significands with signs may be negative, zero or positive; what is rounded is its magnitude. -/
theorem isRounded_normalize (n e : Int) (s : Sign) :
    IsRounded (.ofModel (.pack (UnpackedFloat.normalize Format.binary64 n e s))) (n * 2 ^ e) := by
  unfold UnpackedFloat.normalize
  rcases Int.lt_trichotomy n 0 with hneg | rfl | hpos
  · obtain ⟨k, rfl⟩ := Int.exists_eq_neg_ofNat hneg.le
    have h := isRounded_round .negative (m := k) (by omega) e
    have hvalue : withSign (isNegative .negative) (dyadic k e) = ((-k : Int) : ℚ) * 2 ^ e := by
      unfold dyadic withSign isNegative
      push_cast
      simp
    rw [hvalue] at h
    simp only [Int.compare_eq_lt.2 hneg, Int.neg_neg, Int.toNat_natCast]
    exact h
  · rw [Int.cast_zero, zero_mul]
    exact (StandsFor.zero s).isRounded
  · obtain ⟨k, rfl⟩ := Int.eq_ofNat_of_zero_le hpos.le
    have h := isRounded_round .positive (m := k) (by omega) e
    simp only [Int.compare_eq_gt.2 hpos, Int.toNat_natCast]
    exact h

/-- A significand at a smaller exponent, with its sign. -/
theorem cast_apply (s : Sign) (m : Nat) {e f : Int} (h : f ≤ e) :
    ((s.apply ((m <<< (e - f).toNat : Nat) : Int) : Int) : ℚ) * 2 ^ f =
      withSign (isNegative s) (dyadic m e) := by
  have he : e = f + ((e - f).toNat : Int) := by omega
  have hsplit := dyadic_add m f (e - f).toNat
  rw [← he] at hsplit
  rw [hsplit, Nat.shiftLeft_eq]
  cases s with
  | positive => rfl
  | negative =>
    show ((-((m * 2 ^ (e - f).toNat : Nat) : Int) : Int) : ℚ) * 2 ^ f = -(_ * _)
    rw [Int.cast_neg, neg_mul]
    rfl

/-- A sum is exact before it is rounded, since both significands are brought to the smaller exponent. A sum
    with a zero is returned as it is, without rounding. -/
theorem StandsFor.add {a b : UnpackedFloat} {v w : ℚ} (ha : StandsFor a v) (hb : StandsFor b w) :
    IsRounded (.ofModel (.pack (add Format.binary64 a b))) (v + w) := by
  cases ha with
  | zero s =>
    rw [zero_add]
    cases hb with
    | zero t => cases s <;> cases t <;> exact (StandsFor.zero _).isRounded
    | finite t hn hd => exact (StandsFor.finite t hn hd).isRounded
  | finite s hm hc =>
    cases hb with
    | zero t =>
      rw [add_zero]
      exact (StandsFor.finite s hm hc).isRounded
    | finite t hn hd =>
      rename_i m e n f
      have h := isRounded_normalize (s.apply ((m <<< (e - min e f).toNat : Nat) : Int) +
        t.apply ((n <<< (f - min e f).toNat : Nat) : Int)) (min e f) .positive
      rw [Int.cast_add, add_mul, cast_apply s m (Int.min_le_left e f),
        cast_apply t n (Int.min_le_right e f)] at h
      exact h

theorem StandsFor.neg {u : UnpackedFloat} {v : ℚ} (h : StandsFor u v) :
    StandsFor (UnpackedFloat.neg u) (-v) := by
  cases h with
  | zero s =>
    rw [neg_zero]
    exact .zero (-s)
  | finite s hm hc =>
    rename_i m e
    have hsign : withSign (isNegative (-s)) (dyadic m e) = -withSign (isNegative s) (dyadic m e) := by
      cases s with
      | positive => rfl
      | negative => exact (neg_neg _).symm
    rw [← hsign]
    exact .finite (-s) hm hc

/-- A difference is the sum with the opposite number. -/
theorem unpacked_sub (a b : UnpackedFloat) :
    UnpackedFloat.sub Format.binary64 a b =
      UnpackedFloat.add Format.binary64 a (UnpackedFloat.neg b) := by
  have happly : ∀ (t : Sign) (n : Int), (-t).apply n = -t.apply n := by
    intro t n
    cases t with
    | positive => rfl
    | negative => exact (Int.neg_neg n).symm
  cases a <;> cases b <;> try rfl
  rename_i s m e hm t n f hn
  -- Both bring the significands to the smaller exponent and normalize what comes out.
  show UnpackedFloat.normalize Format.binary64
      (s.apply (decreaseExponent m e (min e f)).1 - t.apply (decreaseExponent n f (min e f)).1)
      (min e f) .positive =
    UnpackedFloat.normalize Format.binary64
      (s.apply (decreaseExponent m e (min e f)).1 + (-t).apply (decreaseExponent n f (min e f)).1)
      (min e f) .positive
  rw [happly, Int.sub_eq_add_neg]

end Decimal
end Infochart
