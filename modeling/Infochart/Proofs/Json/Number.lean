import Infochart.Json.Number
import Infochart.Proofs.Decimal.Bounded
import Infochart.Proofs.Decimal.Digits

/-!
# Which numbers have a value

A literal is refused when its product with a power of ten overflows. What the reader multiplies is not
the number as written but the significand that it collects, so the module follows the collection digit
by digit (`Collects`): the significand has 64 bits at most, and with its power of ten it never exceeds
the digits read so far. So a literal has a value if its digits stay within `safeBound`
(`value?_whole_isSome`), and one with a point if the digits before the point fit 64 bits
(`value?_fraction_isSome`).
-/

namespace Infochart
namespace Json

open Decimal (ofDigits safeBound)

/-! ## Collecting digits -/

/-- What is known of the digits before the point once they are collected. -/
structure Collects (digits : List Char) (s : Collected) : Prop where
  fits : s.significand < 2 ^ 64
  nonneg : 0 ≤ s.exponent
  le : s.significand * 10 ^ s.exponent.toNat ≤ ofDigits digits
  all : s.full = false → s.exponent = 0 ∧ s.significand = ofDigits digits
  large : s.full = true → 0 < s.significand ∧ 2 ^ 64 ≤ ofDigits digits

theorem digit_le {c : Char} (h : c.isDigit = true) : c.toNat - 48 ≤ 9 := by
  have hc : c.toNat ≤ 57 := (Char.isDigit_iff_toNat.1 h).2
  omega

theorem ofDigits_concat (ds : List Char) (c : Char) :
    ofDigits (ds ++ [c]) = 10 * ofDigits ds + (c.toNat - 48) := by
  rw [Decimal.ofDigits_append, Decimal.ofDigits_singleton, List.length_singleton, Nat.pow_one,
    Nat.mul_comm]

theorem collectWhole_concat (ds : List Char) (c : Char) :
    collectWhole (ds ++ [c]) =
      if ((collectWhole ds).full || Nat.pow 2 64 ≤
          10 * (collectWhole ds).significand + (c.toNat - 48)) = true then
        { collectWhole ds with exponent := (collectWhole ds).exponent + 1, full := true }
      else
        { collectWhole ds with
          significand := 10 * (collectWhole ds).significand + (c.toNat - 48) } := by
  unfold collectWhole
  rw [List.foldl_append]
  rfl

section Step

variable {ds : List Char} {s : Collected} {c : Char}

/-- A digit that no longer fits counts as a power of ten, and the significand stays. -/
theorem Collects.leave (hs : Collects ds s) (hc : c.isDigit = true)
    (h : s.full = true ∨ 2 ^ 64 ≤ 10 * s.significand + (c.toNat - 48)) :
    Collects (ds ++ [c]) { s with exponent := s.exponent + 1, full := true } := by
  have hdigit := digit_le hc
  have hnonneg := hs.nonneg
  have hexp : (s.exponent + 1).toNat = s.exponent.toNat + 1 := by omega
  have hpow : 0 < 10 ^ s.exponent.toNat := Nat.pow_pos (by decide)
  have hle : s.significand ≤ ofDigits ds := Nat.le_trans (Nat.le_mul_of_pos_right _ hpow) hs.le
  refine ⟨hs.fits, ?_, ?_, fun h => absurd h (by simp), fun _ => ?_⟩
  · show 0 ≤ s.exponent + 1
    omega
  · show s.significand * 10 ^ (s.exponent + 1).toNat ≤ _
    have hprev := hs.le
    rw [hexp, Nat.pow_succ, ← Nat.mul_assoc, ofDigits_concat]
    omega
  · show 0 < s.significand ∧ _
    rw [ofDigits_concat]
    rcases h with hfull | hover
    · have hlarge := hs.large hfull
      omega
    · omega

/-- A digit that fits is taken into the significand. -/
theorem Collects.push (hs : Collects ds s) (hfull : s.full = false)
    (h : 10 * s.significand + (c.toNat - 48) < 2 ^ 64) :
    Collects (ds ++ [c]) { s with significand := 10 * s.significand + (c.toNat - 48) } := by
  obtain ⟨hzero, hall⟩ := hs.all hfull
  have hsame : 10 * s.significand + (c.toNat - 48) = ofDigits (ds ++ [c]) := by
    rw [ofDigits_concat, hall]
  refine ⟨h, hs.nonneg, ?_, fun _ => ⟨hzero, hsame⟩, fun h => ?_⟩
  · simp only [hzero, Int.toNat_zero, Nat.pow_zero, Nat.mul_one]
    exact Nat.le_of_eq hsame
  · rw [hfull] at h
    cases h

end Step

/-- **The digits before the point, collected.** -/
theorem collectWhole_collects {ds : List Char} (hd : ∀ c ∈ ds, c.isDigit = true) :
    Collects ds (collectWhole ds) := by
  -- The collection goes from left to right, so the induction takes digits off at the end.
  induction ds using List.reverseRecOn with
  | nil => exact ⟨by decide, by decide, by decide, fun _ => by decide, fun h => by cases h⟩
  | append_singleton ds c ih =>
    have hs := ih fun d h => hd d (List.mem_append_left [c] h)
    have hc := hd c (List.mem_append_right ds List.mem_cons_self)
    rw [collectWhole_concat]
    split
    · rename_i hover
      rw [Bool.or_eq_true, decide_eq_true_eq] at hover
      exact hs.leave hc hover
    · rename_i hfit
      rw [Bool.or_eq_true, decide_eq_true_eq, not_or, Bool.not_eq_true] at hfit
      exact hs.push hfit.1 (Nat.lt_of_not_le hfit.2)

theorem collectFraction_concat (start : Collected) (ds : List Char) (c : Char) :
    collectFraction start (ds ++ [c]) =
      if ((collectFraction start ds).full || Nat.pow 2 64 ≤
          10 * (collectFraction start ds).significand + (c.toNat - 48)) = true then
        { collectFraction start ds with full := true }
      else
        ⟨10 * (collectFraction start ds).significand + (c.toNat - 48),
          (collectFraction start ds).exponent - 1, false⟩ := by
  unfold collectFraction
  rw [List.foldl_append]
  rfl

/-- What is known of the digits behind the point once they are collected: they lower the exponent, or else
    the first of them did not fit. -/
structure CollectsBehind (start : Collected) (digits : List Char) (s : Collected) : Prop where
  fits : s.significand < 2 ^ 64
  exponent : s.exponent < start.exponent ∨ s.exponent = start.exponent ∧ (digits = [] ∨ s.full = true)
  large : s.full = true → 0 < s.significand
  start : s.exponent = start.exponent → s.significand = start.significand

theorem collectFraction_collects {start : Collected} (hstart : start.significand < 2 ^ 64)
    {ds : List Char} (hd : ∀ c ∈ ds, c.isDigit = true) :
    CollectsBehind start ds (collectFraction start ds) := by
  induction ds using List.reverseRecOn with
  | nil => exact ⟨hstart, .inr ⟨rfl, .inl rfl⟩, fun h => absurd h Bool.false_ne_true, fun _ => rfl⟩
  | append_singleton ds c ih =>
    have hs := ih fun d h => hd d (List.mem_append_left [c] h)
    have hdigit := digit_le (hd c (List.mem_append_right ds List.mem_cons_self))
    rw [collectFraction_concat]
    generalize collectFraction start ds = s at hs ⊢
    split
    · rename_i hfull
      rw [Bool.or_eq_true, decide_eq_true_eq] at hfull
      have hpos : 0 < s.significand := by
        rcases hfull with hfull | hover
        · exact hs.large hfull
        · have hover' : 2 ^ 64 ≤ 10 * s.significand + (c.toNat - 48) := hover
          omega
      exact ⟨hs.fits, hs.exponent.imp_right fun h => ⟨h.1, .inr rfl⟩, fun _ => hpos, hs.start⟩
    · rename_i hfit
      rw [Bool.or_eq_true, decide_eq_true_eq, not_or] at hfit
      have hlt : 10 * s.significand + (c.toNat - 48) < 2 ^ 64 := Nat.lt_of_not_le hfit.2
      have hexp : s.exponent - 1 < start.exponent := by
        rcases hs.exponent with h | h
        · omega
        · omega
      refine ⟨hlt, .inl hexp, fun h => absurd h Bool.false_ne_true, fun h => ?_⟩
      have hsame : s.exponent - 1 = start.exponent := h
      omega

/-! ## Scaling -/

/-- **A significand can be scaled if the product is bounded.** -/
theorem scale_isSome {n : Nat} {e : Int} (hn : n < 2 ^ 64)
    (h : 0 ≤ e → 0 < n ∧ n * 10 ^ e.toNat ≤ safeBound) : (scale n e).isSome = true := by
  unfold scale
  simp only
  by_cases he : 0 ≤ e
  · obtain ⟨hpos, hbound⟩ := h he
    obtain ⟨hrange, hlt⟩ := Decimal.mul_power_lt_infinity hpos hn hbound
    have hsmall : e ≤ 308 := by omega
    rw [if_pos he, if_pos hsmall, if_pos hlt]
    rfl
  · rw [if_neg he]
    split
    · rfl
    · split <;> rfl

/-! ## Literals -/

/-- A literal without an exponent is scaled by what its digits leave. -/
theorem real?_whole (negative : Bool) (ds : List Char) :
    (⟨negative, ds, none, none⟩ : Literal).real? =
      (scale (collectWhole ds).significand (collectWhole ds).exponent).map
        fun x => if negative then -x else x := by
  unfold Literal.real?
  simp only [Option.map_none, Option.getD_none]
  rw [if_neg (by decide), if_neg Bool.false_ne_true, Int.natCast_zero, Int.add_zero]

theorem real?_fraction (negative : Bool) (ds fs : List Char) :
    (⟨negative, ds, some fs, none⟩ : Literal).real? =
      (scale (collectFraction (collectWhole ds) fs).significand
        (collectFraction (collectWhole ds) fs).exponent).map
          fun x => if negative then -x else x := by
  unfold Literal.real?
  simp only [Option.map_none, Option.getD_none]
  rw [if_neg (by decide), if_neg Bool.false_ne_true, Int.natCast_zero, Int.add_zero]

/-- **A bounded literal without a point has a value.** -/
theorem value?_whole_isSome (negative : Bool) {ds : List Char} (hd : ∀ c ∈ ds, c.isDigit = true)
    (hpos : 0 < ofDigits ds) (hbound : ofDigits ds ≤ safeBound) :
    (⟨negative, ds, none, none⟩ : Literal).value?.isSome = true := by
  have hs := collectWhole_collects hd
  have hreal : (⟨negative, ds, none, none⟩ : Literal).real?.isSome = true := by
    rw [real?_whole, Option.isSome_map]
    refine scale_isSome hs.fits fun _ => ⟨?_, hs.le.trans hbound⟩
    cases hfull : (collectWhole ds).full with
    | true => exact (hs.large hfull).1
    | false => exact (hs.all hfull).2 ▸ hpos
  unfold Literal.value?
  simp only [and_self, if_true]
  split
  · rfl
  · split
    · rfl
    · rw [Option.isSome_map]
      exact hreal

/-- **A literal with a point has a value if the digits before the point fit 64 bits.** -/
theorem value?_fraction_isSome (negative : Bool) {ds fs : List Char}
    (hd : ∀ c ∈ ds, c.isDigit = true) (hf : ∀ c ∈ fs, c.isDigit = true) (hne : fs ≠ [])
    (hfit : ofDigits ds < 2 ^ 64) :
    (⟨negative, ds, some fs, none⟩ : Literal).value?.isSome = true := by
  have hw := collectWhole_collects hd
  have hs := collectFraction_collects hw.fits hf
  have hexp : (collectWhole ds).exponent = 0 := by
    cases hfull : (collectWhole ds).full with
    | true => exact absurd hfit (Nat.not_lt.2 (hw.large hfull).2)
    | false => exact (hw.all hfull).1
  have hreal : (⟨negative, ds, some fs, none⟩ : Literal).real?.isSome = true := by
    rw [real?_fraction, Option.isSome_map]
    refine scale_isSome hs.fits fun h0 => ?_
    -- No digit behind the point was taken, so the digits before it are all that is scaled.
    rcases hs.exponent with hlt | ⟨heq, hnil | hfull⟩
    · omega
    · exact absurd hnil hne
    · have hsig := hs.start heq
      have hle := hw.le
      have hsafe : 2 ^ 64 ≤ safeBound := by decide +kernel
      rw [hexp, Int.toNat_zero, Nat.pow_zero, Nat.mul_one] at hle
      rw [heq, hexp, Int.toNat_zero, Nat.pow_zero, Nat.mul_one]
      exact ⟨hs.large hfull, by omega⟩
  unfold Literal.value?
  simp only [reduceCtorEq, false_and, if_false, Option.isSome_map]
  exact hreal

end Json
end Infochart
