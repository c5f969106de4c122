import Infochart.Proofs.Decimal.Bounded
import Infochart.Proofs.Decimal.Length

/-!
# How large shortest decimals are

A decimal that reads back lies within half a place of its number, so it is hardly larger. For all numbers
but the three largest ones that is enough to stay within `safeBound` where the decimal is a whole
number; where it is not, its digits have fewer than 64 bits anyway (`shortest_fits`).
-/

namespace Infochart
namespace Decimal

/-- Whether a number is the largest finite one of either sign. -/
def isLargest (x : Float) : Bool :=
  match Binary.ofFloat x with
  | .finite _ m e => m = 2 ^ 53 - 1 && e = 971
  | _ => false

/-- A decimal within the bound, or with few digits before the point. -/
structure Scaled.Fits (s : Scaled) : Prop where
  pos : 0 < s.digits
  whole : 0 ≤ s.exponent → s.digits * 10 ^ s.exponent.toNat ≤ safeBound
  point : s.exponent < 0 → s.digits < 2 ^ 64 * 10 ^ (-s.exponent).toNat

section Canonical

variable {m : Nat} {q : Int}

/-- The upper end of the interval of a number that is an integer. -/
theorem upper_le_safeBound (hc : Binary.Canonical m q) (hsmall : q < 971 ∨ m < 2 ^ 53 - 3) {j : Nat}
    (hq : q = j) : (4 * m + 2) * 2 ^ j ≤ 4 * safeBound := by
  have hm := hc.lt
  have hhigh := hc.high
  -- Below the largest exponent there is a factor of two to spare, and at it three significands.
  have hdouble : 2 ^ 971 = 2 * 2 ^ 970 := by rw [← pow_succ']
  unfold safeBound
  rcases hsmall with hlt | hlt
  · have hpow : 2 ^ j ≤ 2 ^ 970 := pow_le_pow_right₀ (by decide) (by omega)
    have hle := Nat.mul_le_mul_left (4 * m + 2) hpow
    have hcoeff : (4 * m + 2) * 2 ^ 970 ≤ 4 * 2 ^ 53 * 2 ^ 970 :=
      Nat.mul_le_mul_right _ (by omega)
    rw [hdouble]
    generalize 2 ^ 970 = p at *
    omega
  · have hpow : 2 ^ j ≤ 2 ^ 971 := pow_le_pow_right₀ (by decide) (by omega)
    have hle := Nat.mul_le_mul_left (4 * m + 2) hpow
    have hcoeff : (4 * m + 2) * 2 ^ 971 ≤ 4 * (2 ^ 53 - 3) * 2 ^ 971 :=
      Nat.mul_le_mul_right _ (by omega)
    rw [← Nat.mul_assoc]
    exact hle.trans hcoeff

/-- A whole decimal that reads back is within the bound. -/
theorem whole_le_safeBound (hc : Binary.Canonical m q) (hsmall : q < 971 ∨ m < 2 ^ 53 - 3)
    {d n : Nat} (h : readsBack m q d n = true) : d * 10 ^ n ≤ safeBound := by
  have hm := hc.lt
  have hpoint : 4 * d * 10 ^ n = 4 * (d * 10 ^ n) := Nat.mul_assoc 4 d _
  obtain ⟨-, hb⟩ := bounds_of_readsBack h
  rw [powerRatio_natCast] at hb
  rcases Int.le_total 0 q with h0 | hneg
  · obtain ⟨j, rfl⟩ := Int.eq_ofNat_of_zero_le h0
    have hupper := upper_le_safeBound hc hsmall rfl
    rw [powerRatio_natCast] at hb
    simp only [Nat.mul_one] at hb
    omega
  · obtain ⟨j, rfl⟩ := Int.exists_eq_neg_ofNat hneg
    have hbound : 2 ^ 53 ≤ safeBound := by decide +kernel
    have hpow : 4 * d * 10 ^ n ≤ 4 * d * 10 ^ n * 2 ^ j :=
      Nat.le_mul_of_pos_right _ (Nat.two_pow_pos j)
    rw [powerRatio_neg_natCast] at hb
    simp only [Nat.mul_one] at hb
    omega

/-- **The shortest decimal fits.** -/
theorem shortest_fits (tie : Tie) (hc : Binary.Canonical m q)
    (hsmall : q < 971 ∨ m < 2 ^ 53 - 3) : (shortest tie m q).Fits := by
  refine ⟨shortest_digits_pos tie hc, fun h0 => ?_, fun _ => ?_⟩
  · have hback := readsBack_shortest tie hc
    obtain ⟨n, hn⟩ := Int.eq_ofNat_of_zero_le h0
    rw [hn] at hback ⊢
    exact whole_le_safeBound hc hsmall hback
  · have hten : 0 < 10 ^ (-(shortest tie m q).exponent).toNat := Nat.pow_pos (by decide)
    exact (shortest_digits_lt tie hc).trans_le (Nat.le_mul_of_pos_right _ hten)

end Canonical

end Decimal
end Infochart
