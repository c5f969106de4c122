import Infochart.Proofs.Decimal.Nearest
import Infochart.Proofs.Property.Numbers

/-!
# Short decimals survive

A number whose decimal is short comes back as itself when it is written and read: an integer is converted,
and of a number with a point both the digits and the power of ten are binary numbers, so that the reader
rounds only once, and rounding once finds the number that the decimal stands for
(`survives_of_hasShortDecimal`).
-/

namespace Infochart
namespace Property

open Decimal (Binary Scaled shortest)

/-- A decimal that is an integer of 63 bits, or has at most 53 bits of digits and at most 22 places. -/
structure IsShort (s : Scaled) : Prop where
  whole : 0 ≤ s.exponent → s.digits * 10 ^ s.exponent.toNat ≤ 2 ^ 63
  point : s.exponent < 0 → s.digits ≤ 2 ^ 53 ∧ -22 ≤ s.exponent

section Short

variable {d m : Nat} {q : Int}

/-- A short whole number is converted. -/
theorem ofFloat_whole {n : Nat} (hd : 0 < d) (hfit : d * 10 ^ n ≤ 2 ^ 63) (hc : Binary.Canonical m q)
    (h : Decimal.readsBack m q d n = true) :
    Binary.ofFloat (Float.ofNat (d * 10 ^ n)) = .finite false m q := by
  have hnear := Decimal.isNearest_of_readsBack hc.pos h
  have hvalue : ((d * 10 ^ n : Nat) : ℚ) = d * 10 ^ (n : Int) := by
    rw [zpow_natCast]
    push_cast
    rfl
  rw [← hvalue] at hnear
  exact Decimal.ofFloat_ofNat_nearest (Nat.mul_pos hd (Nat.pow_pos (by decide))) (by omega) hc hnear

/-- Short digits with a point are divided by a power of ten. -/
theorem exists_scale_point {n : Nat} (hd : 0 < d) (hfit : d ≤ 2 ^ 53) (hn : 0 < n) (hn' : n ≤ 22)
    (hc : Binary.Canonical m q) (hlow : 2 ^ 52 ≤ m) (h : Decimal.readsBack m q d (-n) = true) :
    ∃ y, Json.scale d (-n) = some y ∧ Binary.ofFloat y = .finite false m q := by
  have hnear := Decimal.isNearest_of_readsBack hc.pos h
  obtain ⟨m₁, e₁, hs, hf⟩ := Decimal.exists_shifted hd hfit
  obtain ⟨hlow₁, hhigh₁, helow, -⟩ := hs.bounds
  obtain ⟨m₂, e₂, hp, hlow₂, hhigh₂, -, -, hvalue⟩ :=
    Decimal.exists_of_isExactly (Decimal.isExactly_power n (by omega))
  have hten : Decimal.dyadic m₂ e₂ < 2 ^ 74 := by
    rw [hvalue]
    have hle : 10 ^ n ≤ 10 ^ 22 := Nat.pow_le_pow_right (by decide) hn'
    have hlt : 10 ^ n < 2 ^ 74 := hle.trans_lt (by decide)
    exact_mod_cast hlt
  have hexp := Decimal.exponent_lt hlow₂ hten
  have hquotient : (d * 10 ^ (-n : Int) : ℚ) = Decimal.dyadic m₁ e₁ / Decimal.dyadic m₂ e₂ := by
    rw [hs.dyadic_eq, hvalue, zpow_neg, zpow_natCast, div_eq_mul_inv]
    push_cast
    rfl
  rw [hquotient] at hnear
  have hscale : Json.scale d (-n) =
      some (Float.ofScientific d false 0 / Float.ofScientific 1 false n) := by
    have hneg : ¬ 0 ≤ -(n : Int) := by omega
    have hrange : -308 ≤ -(n : Int) := by omega
    unfold Json.scale
    simp only [if_neg hneg, if_pos hrange, Int.neg_neg, Int.toNat_natCast]
  exact ⟨_, hscale, Decimal.ofFloat_div_nearest hf hp hlow₁ hhigh₁ hlow₂ hhigh₂ (by omega) hc hlow
    hnear⟩

end Short

/-- What a short decimal stands for is not too small for a leading bit. -/
theorem IsShort.two_pow_le {s : Scaled} (hs : IsShort s) {m : Nat} {q : Int} (hd : 0 < s.digits)
    (hc : Binary.Canonical m q) (h : Decimal.readsBack m q s.digits s.exponent = true) :
    2 ^ 52 ≤ m := by
  have hexp : -22 ≤ s.exponent := by
    rcases Int.lt_or_le s.exponent 0 with hneg | hpos
    · exact (hs.point hneg).2
    · omega
  refine (Decimal.isNearest_of_readsBack hc.pos h).two_pow_le hc ?_
  have hone : (1 : ℚ) ≤ s.digits := by exact_mod_cast hd
  calc (2 : ℚ) ^ (-1022 : Int) ≤ 2 ^ (-80 : Int) := zpow_le_zpow_right₀ one_le_two (by decide)
    _ ≤ 10 ^ (-22 : Int) := by norm_num
    _ ≤ 10 ^ s.exponent := zpow_le_zpow_right₀ (by norm_num) hexp
    _ ≤ s.digits * 10 ^ s.exponent := le_mul_of_one_le_left (zpow_nonneg (by norm_num) _) hone

/-- **A short decimal is read as the number that it stands for.** -/
theorem exists_readDecimal? (negative : Bool) {s : Scaled} (hs : IsShort s) (hd : 0 < s.digits)
    {m : Nat} {q : Int} (hc : Binary.Canonical m q)
    (h : Decimal.readsBack m q s.digits s.exponent = true) :
    ∃ y, readDecimal? negative s = some y ∧ Binary.ofFloat y = .finite negative m q := by
  have hlow := hs.two_pow_le hd hc h
  obtain ⟨z, hz, hf⟩ : ∃ z, readDecimal? negative s = some (if negative then -z else z) ∧
      Binary.ofFloat z = .finite false m q := by
    obtain ⟨d, k⟩ := s
    rcases Int.lt_or_le k 0 with hneg | hpos
    · obtain ⟨n, rfl⟩ := Int.exists_eq_neg_ofNat (Int.le_of_lt hneg)
      have hfit : d ≤ 2 ^ 53 := (hs.point hneg).1
      have hrange : -22 ≤ -(n : Int) := (hs.point hneg).2
      obtain ⟨z, hz, hf⟩ := exists_scale_point hd hfit (by omega) (by omega) hc hlow h
      refine ⟨z, ?_, hf⟩
      unfold readDecimal?
      simp only [if_pos hneg, hz, Option.map_some]
    · obtain ⟨n, rfl⟩ := Int.eq_ofNat_of_zero_le hpos
      have hfit := hs.whole hpos
      rw [Int.toNat_natCast] at hfit
      refine ⟨_, ?_, ofFloat_whole hd hfit hc h⟩
      unfold readDecimal?
      simp only [if_neg (Int.not_lt.2 hpos), Int.toNat_natCast, if_pos (Or.inl hfit), Option.map_some]
  refine ⟨_, hz, ?_⟩
  cases negative with
  | false => exact hf
  | true => exact Decimal.ofFloat_neg hlow hc.lt hc.low hc.high hf

/-- Whether a number is a zero, or its shortest decimal is short. -/
def HasShortDecimal (x : Float) : Prop :=
  match Binary.ofFloat x with
  | .finite _ m q => m = 0 ∨ IsShort (shortest .up m q)
  | _ => False

/-- **A number with a short decimal survives.** -/
theorem survives_of_hasShortDecimal {x : Float} (h : HasShortDecimal x) : survives x = true := by
  unfold HasShortDecimal at h
  unfold survives readBack?
  cases hx : Binary.ofFloat x with
  | undefined =>
    rw [hx] at h
    exact h.elim
  | infinite negative =>
    rw [hx] at h
    exact h.elim
  | finite negative m q =>
    rw [hx] at h
    rcases Nat.eq_zero_or_pos m with rfl | hm
    · exact Decimal.beq_zero_of_ofFloat hx
    · have hne : ¬ m = 0 := Nat.pos_iff_ne_zero.1 hm
      have hc := Binary.canonical hm hx
      obtain ⟨y, hy, hf⟩ := exists_readDecimal? negative (h.resolve_left hne)
        (Decimal.shortest_digits_pos .up hc) hc (Decimal.readsBack_shortest .up hc)
      simp only [if_neg hne, hy, Option.any_some]
      exact Decimal.beq_of_ofFloat hm hx hf

end Property
end Infochart
