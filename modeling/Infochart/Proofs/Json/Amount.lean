import Infochart.Proofs.Decimal.Magnitude
import Infochart.Proofs.Json.Array
import Infochart.Proofs.Json.Number

/-!
# Amounts as numbers of data

An amount is written without an exponent, and what is written is always an item that is read as a number.
Whether the number has a value is another matter: the largest finite number of either sign is written
with 309 digits, and the product that the reader forms of them overflows. `exists_literal` says that
this is the only amount that is refused.
-/

namespace Infochart
namespace Json

open Decimal (Binary digitsOf ofDigits positional shortest signed withPoint)

/-! ## Digits with a point -/

/-- Zeros are filled in where the point stands in front of all digits. -/
theorem withPoint_of_le {ds : List Char} {places : Nat} (hp : 0 < places) (h : ds.length ≤ places) :
    withPoint ds places = ['0'] ++ '.' :: (List.replicate (places - ds.length) '0' ++ ds) := by
  have hzeros : places + 1 - ds.length = (places - ds.length) + 1 := by omega
  have hone : (places - ds.length) + 1 + ds.length - places = 1 := by omega
  unfold withPoint
  simp only [hzeros, List.length_append, List.length_replicate, hone,
    if_neg (Nat.pos_iff_ne_zero.1 hp)]
  rfl

theorem withPoint_of_lt {ds : List Char} {places : Nat} (hp : 0 < places) (h : places < ds.length) :
    withPoint ds places =
      ds.take (ds.length - places) ++ '.' :: ds.drop (ds.length - places) := by
  have hzeros : places + 1 - ds.length = 0 := by omega
  unfold withPoint
  simp only [hzeros, List.replicate_zero, List.nil_append, if_neg (Nat.pos_iff_ne_zero.1 hp)]

/-- **The point stands among the digits**, and what is filled in are zeros in front of them. -/
theorem withPoint_eq {d places : Nat} (hd : 0 < d) (hp : 0 < places) :
    ∃ ws fs, withPoint (digitsOf d) places = ws ++ '.' :: fs ∧ IsWhole ws ∧ fs.length = places ∧
      (∀ c ∈ fs, c.isDigit = true) ∧ ofDigits (ws ++ fs) = d := by
  have hdigit : ∀ c ∈ digitsOf d, c.isDigit = true := fun c hc => Decimal.isDigit_of_mem_digitsOf hc
  -- With few digits a zero stands before the point, and otherwise the first digits do.
  rcases le_or_gt (digitsOf d).length places with hle | hlt
  · refine ⟨_, _, withPoint_of_le hp hle, isWhole_digitsOf 0, ?_, ?_, ?_⟩
    · rw [List.length_append, List.length_replicate, Nat.sub_add_cancel hle]
    · intro c hc
      rcases List.mem_append.1 hc with hc | hc
      · rw [List.eq_of_mem_replicate hc]
        decide
      · exact hdigit c hc
    · have hzeros : ['0'] ++ List.replicate (places - (digitsOf d).length) '0' =
          List.replicate (places - (digitsOf d).length + 1) '0' := List.replicate_succ.symm
      rw [← List.append_assoc, hzeros, Decimal.ofDigits_append, Decimal.ofDigits_replicate_zero,
        Nat.zero_mul, Nat.zero_add, Decimal.ofDigits_digitsOf]
  · obtain ⟨n, hn⟩ : ∃ n, (digitsOf d).length - places = n + 1 :=
      ⟨(digitsOf d).length - places - 1, by omega⟩
    refine ⟨_, _, withPoint_of_lt hp hlt, ⟨?_, ?_, ?_⟩, ?_, ?_, ?_⟩
    · rw [hn]
      intro hnil
      rw [List.take_eq_nil_iff] at hnil
      rcases hnil with h | h
      · cases h
      · exact Decimal.digitsOf_ne_nil d h
    · exact fun c hc => hdigit c (List.mem_of_mem_take hc)
    · intro hzero
      rw [hn, List.head?_take, if_neg (Nat.succ_ne_zero n)] at hzero
      exact absurd hzero (Decimal.head?_digitsOf_ne_zero hd)
    · rw [List.length_drop]
      omega
    · exact fun c hc => hdigit c (List.mem_of_mem_drop hc)
    · rw [List.take_append_drop, Decimal.ofDigits_digitsOf]

/-! ## Amounts -/

/-- A decimal that fits is written as a number with a value. -/
theorem exists_literal_of_fits (negative : Bool) {s : Decimal.Scaled} (hs : s.Fits) :
    ∃ l, IsItem (signed negative (positional s)) (.number l) ∧ l.value?.isSome = true := by
  rcases Int.lt_or_le s.exponent 0 with hneg | hpos
  · obtain ⟨ws, fs, heq, hws, hlen, hfs, hall⟩ := @withPoint_eq s.digits (-s.exponent).toNat hs.pos
      (by omega)
    have hne : fs ≠ [] := List.ne_nil_of_length_pos (by omega)
    have htext : positional s = ws ++ '.' :: fs := by
      unfold positional
      simp only [if_neg (Int.not_le.2 hneg), heq]
    -- The digits before the point are those of a quotient.
    have hle : ofDigits ws * 10 ^ (-s.exponent).toNat ≤ s.digits := by
      rw [← hall, Decimal.ofDigits_append, hlen]
      exact Nat.le_add_right _ _
    have hfit : ofDigits ws < 2 ^ 64 :=
      Nat.lt_of_mul_lt_mul_right (hle.trans_lt (hs.point hneg))
    rw [htext]
    exact ⟨_, isItem_fraction negative hws hne hfs,
      value?_fraction_isSome negative hws.isDigit hfs hne hfit⟩
  · have hws := isWhole_digitsOf (s.digits * 10 ^ s.exponent.toNat)
    rw [Decimal.positional_of_nonneg hs.pos hpos]
    refine ⟨_, isItem_whole negative hws, value?_whole_isSome negative hws.isDigit ?_ ?_⟩
    · rw [Decimal.ofDigits_digitsOf]
      exact Nat.mul_pos hs.pos (Nat.pow_pos (by decide))
    · rw [Decimal.ofDigits_digitsOf]
      exact hs.whole hpos

/-- The three largest numbers, from the largest one down: they are written as whole numbers, and the
    digits of the first are refused. -/
theorem top_literals : ∀ i < 3, ∀ negative : Bool,
    0 < (shortest .up (2 ^ 53 - 1 - i) 971).digits ∧
      0 ≤ (shortest .up (2 ^ 53 - 1 - i) 971).exponent ∧
      (⟨negative, positional (shortest .up (2 ^ 53 - 1 - i) 971), none, none⟩ :
        Literal).value?.isSome = decide (i ≠ 0) := by
  decide +kernel

theorem exists_literal_top (negative : Bool) {m : Nat} (hlow : 2 ^ 53 - 3 ≤ m) (hhigh : m < 2 ^ 53) :
    ∃ l, IsItem (signed negative (positional (shortest .up m 971))) (.number l) ∧
      l.value?.isSome = !decide (m = 2 ^ 53 - 1) := by
  obtain ⟨i, hi, rfl⟩ : ∃ i < 3, m = 2 ^ 53 - 1 - i := ⟨2 ^ 53 - 1 - m, by omega, by omega⟩
  obtain ⟨hd, hk, hvalue⟩ := top_literals i hi negative
  have hws : IsWhole (positional (shortest .up (2 ^ 53 - 1 - i) 971)) := by
    rw [Decimal.positional_of_nonneg hd hk]
    exact isWhole_digitsOf _
  refine ⟨_, isItem_whole negative hws, hvalue.trans ?_⟩
  rw [← decide_not]
  exact decide_eq_decide.2 (by omega)

/-- **An amount is read as a number, which has a value unless it is the largest one.** -/
theorem exists_literal {x : Float} (h : Decimal.isFinite x = true) :
    ∃ l, IsItem (Decimal.amount x).toList (.number l) ∧
      l.value?.isSome = !Decimal.isLargest x := by
  cases hx : Binary.ofFloat x with
  | undefined =>
    unfold Decimal.isFinite at h
    rw [hx] at h
    cases h
  | infinite negative =>
    unfold Decimal.isFinite at h
    rw [hx] at h
    cases h
  | finite negative m q =>
    have hlargest : Decimal.isLargest x = (decide (m = 2 ^ 53 - 1) && decide (q = 971)) := by
      unfold Decimal.isLargest
      rw [hx]
    rw [hlargest]
    rcases Nat.eq_zero_or_pos m with rfl | hm
    · rw [Decimal.amount_of_zero hx]
      exact ⟨⟨false, ['0'], none, none⟩, isItem_whole false (isWhole_digitsOf 0), rfl⟩
    · have hc := Binary.canonical hm hx
      rw [Decimal.amount_of_finite hm hx]
      -- The bound leaves three numbers open, and these are looked at one by one.
      by_cases htop : q = 971 ∧ 2 ^ 53 - 3 ≤ m
      · obtain ⟨rfl, hlow⟩ := htop
        rw [decide_eq_true rfl, Bool.and_true]
        exact exists_literal_top negative hlow hc.lt
      · have hsmall : q < 971 ∨ m < 2 ^ 53 - 3 := by
          have := hc.high
          omega
        have hnot : (decide (m = 2 ^ 53 - 1) && decide (q = 971)) = false := by
          rw [Bool.and_eq_false_iff, decide_eq_false_iff_not, decide_eq_false_iff_not]
          omega
        rw [hnot]
        exact exists_literal_of_fits negative (Decimal.shortest_fits .up hc hsmall)

end Json
end Infochart
