import Infochart.Proofs.Json.Number

/-!
# What is collected of a written decimal

A decimal is written with all its digits, and the reader collects them into 64 bits again. Digits with a
point come back as they were if they fit; of the zeros behind a whole number those come back as
digits that still fit, and the others as a power of ten (`fill`). So the number that is read is computed
from the decimal alone (`real?_zeros`, `real?_point`).
-/

namespace Infochart
namespace Json

open Decimal (digitsOf ofDigits)

/-- A significand with as many of some zeros behind it as fit 64 bits, and how many are left. -/
def fill (n : Nat) : Nat → Nat × Nat
  | 0 => (n, 0)
  | k + 1 => if 10 * n < 2 ^ 64 then fill (10 * n) k else (n, k + 1)

/-! ## Before the point -/

/-- One digit before the point. -/
def wholeStep (s : Collected) (c : Char) : Collected :=
  let n := 10 * s.significand + (c.toNat - 48)
  if s.full || Nat.pow 2 64 ≤ n then { s with exponent := s.exponent + 1, full := true }
  else { s with significand := n }

theorem collectWhole_eq_foldl (ds : List Char) :
    collectWhole ds = ds.foldl wholeStep ⟨0, 0, false⟩ := rfl

/-- Digits that fit are collected as they are. -/
theorem collectWhole_of_lt {ds : List Char} (hd : ∀ c ∈ ds, c.isDigit = true)
    (h : ofDigits ds < 2 ^ 64) : collectWhole ds = ⟨ofDigits ds, 0, false⟩ := by
  have hs := collectWhole_collects hd
  generalize collectWhole ds = s at hs ⊢
  obtain ⟨n, e, full⟩ := s
  cases full with
  | true => exact absurd h (Nat.not_lt.2 (hs.large rfl).2)
  | false =>
    obtain ⟨hexp, hsig⟩ := hs.all rfl
    have hexp' : e = 0 := hexp
    have hsig' : n = ofDigits ds := hsig
    rw [hexp', hsig']

/-- Zeros behind a significand that is full count as a power of ten. -/
theorem foldl_zeros_full (n : Nat) (e : Int) (k : Nat) :
    (List.replicate k '0').foldl wholeStep ⟨n, e, true⟩ = ⟨n, e + k, true⟩ := by
  induction k generalizing e with
  | zero => rw [Int.natCast_zero, Int.add_zero]; rfl
  | succ k ih =>
    have hstep : wholeStep ⟨n, e, true⟩ '0' = ⟨n, e + 1, true⟩ := rfl
    have hexp : e + 1 + (k : Int) = e + (k + 1 : Nat) := by omega
    rw [List.replicate_succ, List.foldl_cons, hstep, ih, hexp]

/-- **Zeros behind a significand are taken into it while they fit.** -/
theorem foldl_zeros (n k : Nat) :
    ((List.replicate k '0').foldl wholeStep ⟨n, 0, false⟩).significand = (fill n k).1 ∧
      ((List.replicate k '0').foldl wholeStep ⟨n, 0, false⟩).exponent = (fill n k).2 := by
  induction k generalizing n with
  | zero => exact ⟨rfl, rfl⟩
  | succ k ih =>
    have hzero : 10 * n + ('0'.toNat - 48) = 10 * n := rfl
    rw [List.replicate_succ, List.foldl_cons, fill]
    by_cases hfit : 10 * n < 2 ^ 64
    · have hstep : wholeStep ⟨n, 0, false⟩ '0' = ⟨10 * n, 0, false⟩ := by
        unfold wholeStep
        simp only [hzero, Bool.false_or]
        rw [if_neg]
        rw [decide_eq_true_eq]
        exact Nat.not_le.2 hfit
      rw [hstep, if_pos hfit]
      exact ih (10 * n)
    · have hstep : wholeStep ⟨n, 0, false⟩ '0' = ⟨n, 1, true⟩ := by
        unfold wholeStep
        simp only [hzero, Bool.false_or]
        rw [if_pos]
        · rfl
        rw [decide_eq_true_eq]
        exact Nat.not_lt.1 hfit
      have hexp : (1 : Int) + (k : Int) = ((k + 1 : Nat) : Int) := by omega
      rw [hstep, if_neg hfit, foldl_zeros_full]
      exact ⟨rfl, hexp⟩

/-- **A whole number that is not kept as an integer.** -/
theorem real?_zeros (negative : Bool) {d : Nat} (hd : 0 < d) (hlt : d < 2 ^ 64) (k : Nat) :
    (⟨negative, digitsOf (d * 10 ^ k), none, none⟩ : Literal).real? =
      (scale (fill d k).1 (fill d k).2).map fun x => if negative then -x else x := by
  have hdigits : ∀ c ∈ digitsOf d, c.isDigit = true := fun c hc => Decimal.isDigit_of_mem_digitsOf hc
  have hwhole : collectWhole (digitsOf d) = ⟨d, 0, false⟩ := by
    have h := collectWhole_of_lt hdigits (by rwa [Decimal.ofDigits_digitsOf])
    rwa [Decimal.ofDigits_digitsOf] at h
  have hall : collectWhole (digitsOf (d * 10 ^ k)) =
      (List.replicate k '0').foldl wholeStep ⟨d, 0, false⟩ := by
    rw [Decimal.digitsOf_mul_pow hd, collectWhole_eq_foldl, List.foldl_append,
      ← collectWhole_eq_foldl, hwhole]
  obtain ⟨hsig, hexp⟩ := foldl_zeros d k
  rw [real?_whole, hall, hsig, hexp]

/-! ## Behind the point -/

/-- Digits behind the point that fit are collected as they are. -/
theorem collectFraction_of_lt {start : Collected} {fs : List Char}
    (hf : ∀ c ∈ fs, c.isDigit = true)
    (h : start.significand * 10 ^ fs.length + ofDigits fs < 2 ^ 64) :
    collectFraction start fs =
      ⟨start.significand * 10 ^ fs.length + ofDigits fs, start.exponent - fs.length, false⟩ := by
  induction fs using List.reverseRecOn with
  | nil =>
    have hzero : ofDigits [] = 0 := rfl
    rw [hzero, List.length_nil, Nat.pow_zero, Nat.mul_one, Nat.add_zero, Int.natCast_zero,
      Int.sub_zero]
    rfl
  | append_singleton fs c ih =>
    have hlast : start.significand * 10 ^ (fs ++ [c]).length + ofDigits (fs ++ [c]) =
        10 * (start.significand * 10 ^ fs.length + ofDigits fs) + (c.toNat - 48) := by
      rw [ofDigits_concat, List.length_append, List.length_singleton, Nat.pow_succ]
      ring
    rw [hlast] at h ⊢
    have hexp : start.exponent - (fs.length : Int) - 1 = start.exponent - (fs ++ [c]).length := by
      rw [List.length_append, List.length_singleton]
      omega
    rw [collectFraction_concat, ih (fun d hd => hf d (List.mem_append_left [c] hd)) (by omega)]
    simp only [Bool.false_or]
    rw [if_neg, hexp]
    rw [decide_eq_true_eq]
    exact Nat.not_le.2 h

/-- **A number with a point whose digits fit.** -/
theorem real?_point (negative : Bool) {ds fs : List Char} (hd : ∀ c ∈ ds, c.isDigit = true)
    (hf : ∀ c ∈ fs, c.isDigit = true) (h : ofDigits (ds ++ fs) < 2 ^ 64) :
    (⟨negative, ds, some fs, none⟩ : Literal).real? =
      (scale (ofDigits (ds ++ fs)) (-fs.length)).map fun x => if negative then -x else x := by
  rw [Decimal.ofDigits_append] at h ⊢
  have hpos : 0 < 10 ^ fs.length := Nat.pow_pos (by decide)
  have hwhole : ofDigits ds < 2 ^ 64 := by
    have := Nat.le_mul_of_pos_right (ofDigits ds) hpos
    omega
  have hstart := collectWhole_of_lt hd hwhole
  have hall := @collectFraction_of_lt (collectWhole ds) fs hf (by rw [hstart]; exact h)
  rw [real?_fraction, hall, hstart]
  show (scale _ (0 - (fs.length : Int))).map _ = _
  rw [Int.zero_sub]

end Json
end Infochart
