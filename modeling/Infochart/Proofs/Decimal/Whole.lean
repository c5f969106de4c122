import Infochart.Proofs.Decimal.Digits
import Infochart.Proofs.Decimal.Exact

/-!
# Integers as text

The walk from coarse grids to fine ones ends at the grid of the units at the latest when the number is an
integer of at most 53 bits, and a decimal on any grid that it meets before is the integer itself: the
next decimal there is ten units away and the interval that reads back is no wider than one unit. So
the text of such a number is its digits (`amount_of_beq_ofInt`).
-/

namespace Infochart
namespace Decimal

/-! ## Grids -/

theorem powerRatio_natCast (base n : Nat) : powerRatio base n = (base ^ n, 1) := by
  have h : (-(n : Int)).toNat = 0 := by omega
  show (base ^ (n : Int).toNat, base ^ (-(n : Int)).toNat) = _
  rw [Int.toNat_natCast, h, Nat.pow_zero]

theorem powerRatio_neg_natCast (base n : Nat) : powerRatio base (-n) = (1, base ^ n) := by
  have h : (-(n : Int)).toNat = 0 := by omega
  show (base ^ (-(n : Int)).toNat, base ^ (-(-(n : Int))).toNat) = _
  rw [h, Int.neg_neg, Int.toNat_natCast, Nat.pow_zero]

/-- A decimal that a grid gives is positive and reads back. -/
theorem readsBack_of_onGrid {tie : Tie} {m d : Nat} {q k : Int} (h : onGrid tie m q k = some d) :
    0 < d ∧ readsBack m q d k = true := by
  unfold onGrid at h
  simp only at h
  split at h
  · rename_i hbelow habove
    rw [Bool.and_eq_true, decide_eq_true_eq] at hbelow
    cases h
    split
    · exact ⟨Nat.succ_pos _, habove⟩
    · exact hbelow
  · rename_i hbelow _
    rw [Bool.and_eq_true, decide_eq_true_eq] at hbelow
    cases h
    exact hbelow
  · rename_i _ habove
    cases h
    exact ⟨Nat.succ_pos _, habove⟩
  · cases h

/-- The two ends of the interval, each of them counted in. Whether they are depends on the last bit of the
    significand; that is one of the things that the proofs below do not need to know, the other being the
    half width below a power of two. -/
theorem bounds_of_readsBack {m d : Nat} {q k : Int} (h : readsBack m q d k = true) :
    (4 * m - 2) * ((powerRatio 2 q).1 * (powerRatio 10 k).2) ≤
        4 * d * (powerRatio 10 k).1 * (powerRatio 2 q).2 ∧
      4 * d * (powerRatio 10 k).1 * (powerRatio 2 q).2 ≤
        (4 * m + 2) * ((powerRatio 2 q).1 * (powerRatio 10 k).2) := by
  have hnarrow : (4 * m - 2) * ((powerRatio 2 q).1 * (powerRatio 10 k).2) ≤
      (4 * m - if m = Nat.pow 2 52 ∧ -1074 < q then 1 else 2) *
        ((powerRatio 2 q).1 * (powerRatio 10 k).2) := by
    refine Nat.mul_le_mul_right _ ?_
    split <;> omega
  unfold readsBack at h
  simp only at h
  split at h
  · rw [Bool.and_eq_true, decide_eq_true_eq, decide_eq_true_eq] at h
    exact ⟨Nat.le_trans hnarrow h.1, h.2⟩
  · rw [Bool.and_eq_true, decide_eq_true_eq, decide_eq_true_eq] at h
    exact ⟨Nat.le_trans hnarrow (Nat.le_of_lt h.1), Nat.le_of_lt h.2⟩

/-- A decimal that lies closer than the nearer of the two ends reads back. -/
theorem readsBack_of_bounds {m d : Nat} {q k : Int}
    (hlow : (4 * m - 1) * ((powerRatio 2 q).1 * (powerRatio 10 k).2) <
      4 * d * (powerRatio 10 k).1 * (powerRatio 2 q).2)
    (hhigh : 4 * d * (powerRatio 10 k).1 * (powerRatio 2 q).2 <
      (4 * m + 2) * ((powerRatio 2 q).1 * (powerRatio 10 k).2)) :
    readsBack m q d k = true := by
  have hnarrow : (4 * m - if m = Nat.pow 2 52 ∧ -1074 < q then 1 else 2) *
      ((powerRatio 2 q).1 * (powerRatio 10 k).2) ≤
        (4 * m - 1) * ((powerRatio 2 q).1 * (powerRatio 10 k).2) := by
    refine Nat.mul_le_mul_right _ ?_
    split <;> omega
  have hlow' := Nat.lt_of_le_of_lt hnarrow hlow
  unfold readsBack
  simp only
  split
  · rw [Bool.and_eq_true, decide_eq_true_eq, decide_eq_true_eq]
    exact ⟨Nat.le_of_lt hlow', Nat.le_of_lt hhigh⟩
  · rw [Bool.and_eq_true, decide_eq_true_eq, decide_eq_true_eq]
    exact ⟨hlow', hhigh⟩

/-- On the grid of the units an integer stands for itself. -/
theorem readsBack_units {n m : Nat} {q : Int} (hm : 0 < m)
    (hvalue : n * (powerRatio 2 q).2 = m * (powerRatio 2 q).1) : readsBack m q n 0 = true := by
  have hzero : powerRatio 10 0 = (1, 1) := rfl
  have hpoint : 4 * n * (powerRatio 10 0).1 * (powerRatio 2 q).2 =
      4 * m * (powerRatio 2 q).1 := by
    rw [hzero, Nat.mul_one, Nat.mul_assoc, hvalue, Nat.mul_assoc]
  have hunit : 0 < (powerRatio 2 q).1 := Nat.two_pow_pos _
  refine readsBack_of_bounds ?_ ?_
  · rw [hpoint, hzero, Nat.mul_one]
    exact Nat.mul_lt_mul_of_pos_right (by omega) hunit
  · rw [hpoint, hzero, Nat.mul_one]
    exact Nat.mul_lt_mul_of_pos_right (by omega) hunit

section Shifted

variable {n m : Nat} {q : Int}

/-- **A decimal on a grid coarser than the units is the integer itself.** -/
theorem eq_of_readsBack (hs : Shifted n m q) {d k : Nat}
    (h : readsBack m q d ((k + 1 : Nat) : Int) = true) : d * 10 ^ (k + 1) = n := by
  have hb := bounds_of_readsBack h
  rw [powerRatio_natCast] at hb
  cases hs with
  | @left j =>
    rw [powerRatio_neg_natCast] at hb
    have hpoint : 4 * d * 10 ^ (k + 1) * 2 ^ j = 4 * (d * 10 ^ (k + 1) * 2 ^ j) := by ring
    simp only [Nat.mul_one] at hb
    rw [hpoint] at hb
    have heq : d * 10 ^ (k + 1) * 2 ^ j = n * 2 ^ j := by omega
    exact Nat.eq_of_mul_eq_mul_right (Nat.two_pow_pos j) heq
  | top hn =>
    -- Between the ends lie two integers, and only a multiple of ten is on the grid.
    have htwo : powerRatio 2 1 = (2, 1) := rfl
    have hten : d * 10 ^ (k + 1) = 10 * (d * 10 ^ k) := by ring
    have hpoint : 4 * d * 10 ^ (k + 1) = 40 * (d * 10 ^ k) := by ring
    rw [htwo] at hb
    simp only [Nat.mul_one] at hb
    rw [hpoint] at hb
    omega

theorem readsBack_self (hs : Shifted n m q) : readsBack m q n 0 = true := by
  obtain ⟨hm, -⟩ := hs.bounds
  refine readsBack_units (by omega) ?_
  cases hs with
  | @left j =>
    rw [powerRatio_neg_natCast, Nat.mul_one]
  | top hn =>
    subst hn
    decide

/-- On the grid of the units there is no tie to be broken, as nothing is left over. -/
theorem onGrid_zero (tie : Tie) (hn : 0 < n) (hs : Shifted n m q) : onGrid tie m q 0 = some n := by
  have hself := readsBack_self hs
  have hzero : powerRatio 10 0 = (1, 1) := rfl
  have hquotient : m * (powerRatio 2 q).1 * 1 / ((powerRatio 2 q).2 * 1) = n ∧
      m * (powerRatio 2 q).1 * 1 % ((powerRatio 2 q).2 * 1) = 0 := by
    cases hs with
    | @left j =>
      rw [powerRatio_neg_natCast]
      simp only [Nat.mul_one]
      exact ⟨Nat.mul_div_cancel _ (Nat.two_pow_pos j), Nat.mul_mod_left _ _⟩
    | top hn =>
      subst hn
      decide
  have hden : 0 < (powerRatio 2 q).2 * 1 := by
    rw [Nat.mul_one]
    exact Nat.two_pow_pos _
  have htie : tie.takesUpper n 0 ((powerRatio 2 q).2 * 1) = false := by
    unfold Tie.takesUpper
    rw [if_pos (by omega)]
  unfold onGrid
  simp only [hzero, hquotient.1, hquotient.2, htie, hself, hn, decide_true, Bool.and_self]
  split
  · rfl
  · rfl
  · rename_i h _
    cases h
  · rename_i h _
    cases h

/-! ## The walk -/

/-- The induction is on the steps that are left. A grid that gives a decimal ends the walk, and that decimal
    is the integer; a grid that gives none leaves a step less and the next finer grid. -/
theorem firstGrid_whole (tie : Tie) (hn : 0 < n) (hs : Shifted n m q) :
    ∀ steps k : Nat, k < steps → ∃ d j : Nat, firstGrid tie m q steps k = ⟨d, j⟩ ∧
      0 < d ∧ d * 10 ^ j = n := by
  intro steps
  induction steps with
  | zero => exact fun k hk => absurd hk (Nat.not_lt_zero k)
  | succ steps ih =>
    intro k hk
    cases k with
    | zero =>
      refine ⟨n, 0, ?_, hn, by simp⟩
      have hgrid := onGrid_zero tie hn hs
      show firstGrid tie m q (steps + 1) 0 = _
      rw [firstGrid, hgrid]
      rfl
    | succ k =>
      cases hgrid : onGrid tie m q ((k + 1 : Nat) : Int) with
      | some d =>
        obtain ⟨hd, hback⟩ := readsBack_of_onGrid hgrid
        refine ⟨d, k + 1, ?_, hd, eq_of_readsBack hs hback⟩
        rw [firstGrid, hgrid]
      | none =>
        have hprev : ((k + 1 : Nat) : Int) - 1 = (k : Nat) := by omega
        rw [firstGrid, hgrid]
        simp only [hprev]
        exact ih k (by omega)

/-- The walk starts above the units, and not too far above them for its steps. -/
theorem startExponent_whole (hs : Shifted n m q) :
    ∃ k : Nat, k < 22 ∧ startExponent m q = k := by
  obtain ⟨hlow, hhigh, -, -⟩ := hs.bounds
  have hlog : m.log2 = 52 := log2_eq hlow hhigh
  have hq : -52 ≤ q ∧ q ≤ 1 := by
    cases hs with
    | left hj => omega
    | top => omega
  refine ⟨(startExponent m q).toNat, ?_, ?_⟩
  · unfold startExponent
    rw [hlog]
    omega
  · unfold startExponent
    rw [hlog]
    omega

/-- **The shortest decimal of an integer is the integer.** -/
theorem shortest_whole (tie : Tie) (hn : 0 < n) (hs : Shifted n m q) :
    ∃ d j : Nat, shortest tie m q = ⟨d, j⟩ ∧ 0 < d ∧ d * 10 ^ j = n := by
  obtain ⟨k, hk, hstart⟩ := startExponent_whole hs
  unfold shortest
  rw [hstart]
  exact firstGrid_whole tie hn hs 22 k hk

theorem positional_whole (tie : Tie) (hn : 0 < n) (hs : Shifted n m q) :
    positional (shortest tie m q) = digitsOf n := by
  obtain ⟨d, j, hshortest, hd, rfl⟩ := shortest_whole tie hn hs
  rw [hshortest, positional_of_nonneg hd (Int.natCast_nonneg j), Int.toNat_natCast]

end Shifted

/-! ## Amounts -/

theorem amount_of_zero {x : Float} {b : Bool} {e : Int} (h : Binary.ofFloat x = .finite b 0 e) :
    amount x = "0" := by
  unfold amount isZero
  rw [h]
  rfl

theorem amount_of_not_isFinite {x : Float} (h : isFinite x = false) : amount x = "0" := by
  unfold amount
  rw [h, Bool.not_false, Bool.or_true, if_pos rfl]

theorem amount_of_finite {x : Float} {b : Bool} {m : Nat} {e : Int} (hm : 0 < m)
    (h : Binary.ofFloat x = .finite b m e) :
    (amount x).toList = signed b (positional (shortest .up m e)) := by
  have hne : ¬ m = 0 := Nat.pos_iff_ne_zero.1 hm
  unfold amount isZero isFinite plain
  rw [h]
  simp [hne]

/-- **An integer of at most 53 bits is written with its digits.** -/
theorem amount_of_beq_ofInt {x : Float} {n : Int} (hn : n.natAbs ≤ 2 ^ 53)
    (h : (x == Float.ofInt n) = true) :
    (amount x).toList = signed (decide (n < 0)) (digitsOf n.natAbs) := by
  rcases ofFloat_of_beq_ofInt hn h with ⟨rfl, b, hx⟩ | ⟨h0, m, q, hs, hx⟩
  · rw [amount_of_zero hx]
    rfl
  · obtain ⟨hlow, -⟩ := hs.bounds
    rw [amount_of_finite (by omega) hx, positional_whole .up (Int.natAbs_pos.2 h0) hs]

end Decimal
end Infochart
