import Mathlib.Algebra.Order.Floor.Semifield
import Mathlib.Data.Rat.Floor
import Mathlib.Data.Int.Log
import Mathlib.Tactic.FieldSimp
import Infochart.Proofs.Decimal.Rounding

/-!
# Rounding as a function

Arithmetic rounds the exact result to a grid whose points lie closer together for smaller numbers, but
never closer than `2 ^ (-1074)`. `rounding` does so to any rational. It is a function of the exact
result alone, it keeps the order (`rounding_mono`) and it keeps the points of the grid
(`rounding_dyadic`); all bounds on computed numbers come from these two facts.
-/

namespace Infochart
namespace Decimal

/-! ## The nearest integer -/

/-- The integer nearest to a number that is not negative; of two the even one. -/
def nearestEven (t : ℚ) : Nat :=
  let below := ⌊t⌋₊
  if 2 * (t - below) < 1 then below
  else if 1 < 2 * (t - below) then below + 1
  else below + below % 2

theorem nearestEven_div (num : Nat) {den : Nat} (hden : 0 < den) :
    nearestEven (num / den) = roundDiv num den .toEven := by
  have hpos : (0 : ℚ) < den := Nat.cast_pos.2 hden
  have hfloor : ⌊(num / den : ℚ)⌋₊ = num / den := Nat.floor_div_eq_div num den
  have hrest : 2 * (num / den - (num / den : Nat) : ℚ) = (2 * (num % den) : Nat) / den := by
    have hsplit : ((num / den * den + num % den : Nat) : ℚ) = num := by
      rw [Nat.div_add_mod']
    push_cast at hsplit ⊢
    field_simp
    linarith
  unfold nearestEven
  simp only [hfloor, hrest, div_lt_one hpos, one_lt_div hpos, Nat.cast_lt]
  rcases Nat.lt_trichotomy (2 * (num % den)) den with hlt | heq | hgt
  · rw [if_pos hlt, roundDiv_of_lt .toEven hlt]
  · rw [if_neg (by omega), if_neg (by omega), roundDiv_of_eq heq]
  · rw [if_neg (by omega), if_pos hgt, roundDiv_of_gt .toEven hgt]

@[simp] theorem nearestEven_natCast (n : Nat) : nearestEven n = n := by
  unfold nearestEven
  simp

theorem abs_nearestEven_sub_le {t : ℚ} (ht : 0 ≤ t) : |(nearestEven t : ℚ) - t| ≤ 1 / 2 := by
  have hlow := Nat.floor_le ht
  have hhigh := Nat.lt_floor_add_one t
  unfold nearestEven
  simp only
  split_ifs with hlt hgt
  · rw [abs_le]
    constructor <;> linarith
  · push_cast
    rw [abs_le]
    constructor <;> linarith
  · -- Half-way between two integers both are equally far.
    have hhalf : t - ⌊t⌋₊ = 1 / 2 := by linarith
    rcases Nat.mod_two_eq_zero_or_one ⌊t⌋₊ with heven | hodd
    · rw [heven, Nat.add_zero, abs_le]
      constructor <;> linarith
    · rw [hodd]
      push_cast
      rw [abs_le]
      constructor <;> linarith

/-- Rounding to an integer keeps the order: two numbers that go to integers in the wrong order would both
    lie half-way between them, and be the same number. -/
theorem nearestEven_mono {t u : ℚ} (ht : 0 ≤ t) (htu : t ≤ u) : nearestEven t ≤ nearestEven u := by
  by_contra hnot
  have hstep : ((nearestEven u + 1 : Nat) : ℚ) ≤ nearestEven t := by
    exact_mod_cast Nat.lt_of_not_le hnot
  push_cast at hstep
  have ht' := abs_le.1 (abs_nearestEven_sub_le ht)
  have hu' := abs_le.1 (abs_nearestEven_sub_le (ht.trans htu))
  have heq : t = u := by linarith
  exact hnot (heq ▸ Nat.le_refl _)

theorem nearestEven_le {t : ℚ} {n : Nat} (ht : 0 ≤ t) (h : t ≤ n) : nearestEven t ≤ n := by
  have hmono := nearestEven_mono ht h
  rwa [nearestEven_natCast] at hmono

theorem le_nearestEven {t : ℚ} {n : Nat} (h : n ≤ t) : n ≤ nearestEven t := by
  have hmono := nearestEven_mono (Nat.cast_nonneg n) h
  rwa [nearestEven_natCast] at hmono

/-! ## The grid of a number -/

/-- The exponent of the grid that a positive number is rounded to: 53 bits are kept, but none below the
    smallest exponent. -/
def gridExponent (v : ℚ) : Int :=
  max (Int.log 2 v - 52) (-1074)

theorem gridExponent_mono {v w : ℚ} (hv : 0 < v) (hvw : v ≤ w) :
    gridExponent v ≤ gridExponent w := by
  have hlog := Int.log_mono_right (b := 2) hv hvw
  unfold gridExponent
  omega

theorem lt_two_zpow_log (v : ℚ) : v < 2 ^ (Int.log 2 v + 1) := by
  have h := Int.lt_zpow_succ_log_self (b := 2) (by decide) v
  exact_mod_cast h

theorem two_zpow_log_le {v : ℚ} (hv : 0 < v) : 2 ^ Int.log 2 v ≤ v := by
  have h := Int.zpow_log_le_self (b := 2) (by decide) hv
  exact_mod_cast h

/-- The logarithm of a number between two powers. -/
theorem log_eq {v : ℚ} {k : Int} (hlow : 2 ^ k ≤ v) (hhigh : v < 2 ^ (k + 1)) :
    Int.log 2 v = k := by
  have hv : 0 < v := (two_zpow_pos k).trans_le hlow
  have h1 : (2 : ℚ) ^ k < 2 ^ (Int.log 2 v + 1) := hlow.trans_lt (lt_two_zpow_log v)
  have h2 : (2 : ℚ) ^ Int.log 2 v < 2 ^ (k + 1) := (two_zpow_log_le hv).trans_lt hhigh
  have h1' := (zpow_lt_zpow_iff_right₀ (one_lt_two : (1 : ℚ) < 2)).1 h1
  have h2' := (zpow_lt_zpow_iff_right₀ (one_lt_two : (1 : ℚ) < 2)).1 h2
  omega

/-- What lies below a power of two has a grid that the power is on. -/
theorem gridExponent_le {v : ℚ} {e : Int} (hv : 0 < v) (h : v < 2 ^ (e + 53)) (he : -1074 ≤ e) :
    gridExponent v ≤ e := by
  have hlt : (2 : ℚ) ^ Int.log 2 v < 2 ^ (e + 53) := (two_zpow_log_le hv).trans_lt h
  have hlog := (zpow_lt_zpow_iff_right₀ (one_lt_two : (1 : ℚ) < 2)).1 hlt
  unfold gridExponent
  omega

/-- Above the smallest exponent the number has 53 bits on its grid. -/
theorem two_zpow_gridExponent_le {v : ℚ} (hv : 0 < v) (h : -1074 < gridExponent v) :
    2 ^ (gridExponent v + 52) ≤ v := by
  have hlog : gridExponent v + 52 = Int.log 2 v := by
    unfold gridExponent at h ⊢
    omega
  rw [hlog]
  exact two_zpow_log_le hv

/-! ## Rounding of positive numbers -/

/-- The binary number nearest to a number that is not negative. -/
def roundPos (v : ℚ) : ℚ :=
  dyadic (nearestEven (v / 2 ^ gridExponent v)) (gridExponent v)

/-- A point of a coarser grid, in units of a finer one. -/
theorem dyadic_div {m : Nat} {e g : Int} (h : g ≤ e) :
    dyadic m e / 2 ^ g = ((m * 2 ^ (e - g).toNat : Nat) : ℚ) := by
  have he : e = g + ((e - g).toNat : Int) := by omega
  have hsplit := dyadic_add m g (e - g).toNat
  rw [← he] at hsplit
  rw [hsplit]
  unfold dyadic
  rw [mul_div_assoc, div_self (two_zpow_pos g).ne', mul_one]

theorem roundPos_nonneg (v : ℚ) : 0 ≤ roundPos v :=
  dyadic_nonneg _ _

theorem roundPos_zero : roundPos 0 = 0 := by
  have hzero : nearestEven 0 = 0 := by exact_mod_cast nearestEven_natCast 0
  unfold roundPos dyadic
  rw [zero_div, hzero, Nat.cast_zero, zero_mul]

/-- A number that is not above a point of its grid or of a coarser one is not rounded beyond it. -/
theorem roundPos_le {v : ℚ} {m : Nat} {e : Int} (hv : 0 ≤ v) (hg : gridExponent v ≤ e)
    (h : v ≤ dyadic m e) : roundPos v ≤ dyadic m e := by
  have hpos := two_zpow_pos (gridExponent v)
  have hdiv : v / 2 ^ gridExponent v ≤ ((m * 2 ^ (e - gridExponent v).toNat : Nat) : ℚ) := by
    rw [← dyadic_div hg]
    exact div_le_div_of_nonneg_right h hpos.le
  have hnat : (nearestEven (v / 2 ^ gridExponent v) : ℚ) ≤ dyadic m e / 2 ^ gridExponent v := by
    rw [dyadic_div hg]
    exact_mod_cast nearestEven_le (div_nonneg hv hpos.le) hdiv
  exact (le_div_iff₀ hpos).1 hnat

theorem le_roundPos {v : ℚ} {m : Nat} {e : Int} (hg : gridExponent v ≤ e) (h : dyadic m e ≤ v) :
    dyadic m e ≤ roundPos v := by
  have hpos := two_zpow_pos (gridExponent v)
  have hdiv : ((m * 2 ^ (e - gridExponent v).toNat : Nat) : ℚ) ≤ v / 2 ^ gridExponent v := by
    rw [← dyadic_div hg]
    exact div_le_div_of_nonneg_right h hpos.le
  have hnat : dyadic m e / 2 ^ gridExponent v ≤ nearestEven (v / 2 ^ gridExponent v) := by
    rw [dyadic_div hg]
    exact_mod_cast le_nearestEven hdiv
  exact (div_le_iff₀ hpos).1 hnat

/-- Between numbers with the same grid it is the order of the nearest integers. Otherwise a power of two
    lies between them that is on both grids, and neither is rounded beyond it. -/
theorem roundPos_mono {v w : ℚ} (hv : 0 ≤ v) (hvw : v ≤ w) : roundPos v ≤ roundPos w := by
  rcases hv.eq_or_lt with rfl | hpos
  · rw [roundPos_zero]
    exact roundPos_nonneg w
  have hw := hpos.trans_le hvw
  rcases (gridExponent_mono hpos hvw).eq_or_lt with heq | hlt
  · have hscale := two_zpow_pos (gridExponent w)
    have hmono := nearestEven_mono (div_nonneg hv hscale.le)
      (div_le_div_of_nonneg_right hvw hscale.le)
    unfold roundPos dyadic
    rw [heq]
    exact mul_le_mul_of_nonneg_right (by exact_mod_cast hmono) hscale.le
  · -- The least number with 53 bits on the coarser grid is that power.
    have hpoint : ∀ e, dyadic 1 e = 2 ^ e := by
      intro e
      unfold dyadic
      rw [Nat.cast_one, one_mul]
    have hgrid : -1074 ≤ gridExponent v := le_max_right _ _
    have hbelow : v ≤ dyadic 1 (gridExponent w + 52) := by
      have hlog : Int.log 2 v + 1 ≤ gridExponent w + 52 := by
        unfold gridExponent at hlt ⊢
        omega
      rw [hpoint]
      exact (lt_two_zpow_log v).le.trans (zpow_le_zpow_right₀ one_le_two hlog)
    have habove : dyadic 1 (gridExponent w + 52) ≤ w := by
      rw [hpoint]
      exact two_zpow_gridExponent_le hw (by omega)
    exact (roundPos_le hv (by omega) hbelow).trans (le_roundPos (by omega) habove)

/-- **A point of the grid is kept.** -/
theorem roundPos_dyadic {m : Nat} {e : Int} (hm : m < 2 ^ 53) (he : -1074 ≤ e) :
    roundPos (dyadic m e) = dyadic m e := by
  rcases Nat.eq_zero_or_pos m with rfl | hpos
  · have hzero : dyadic 0 e = 0 := by
      unfold dyadic
      rw [Nat.cast_zero, zero_mul]
    rw [hzero, roundPos_zero]
  have hv : 0 < dyadic m e := mul_pos (Nat.cast_pos.2 hpos) (two_zpow_pos e)
  have hlt : dyadic m e < 2 ^ (e + 53) := by
    have hcast : (m : ℚ) < 2 ^ (53 : Int) := by exact_mod_cast hm
    rw [add_comm, zpow_add₀ two_ne_zero]
    exact mul_lt_mul_of_pos_right hcast (two_zpow_pos e)
  have hg := gridExponent_le hv hlt he
  exact le_antisymm (roundPos_le hv.le hg le_rfl) (le_roundPos hg le_rfl)

/-! ## Rounding of all numbers -/

/-- The binary number nearest to a rational, as if there were no greatest exponent. That it is total and
    has no infinities is what makes it easy to reason with; the range is looked at where a computed number is
    compared with it. -/
def rounding (v : ℚ) : ℚ :=
  if v < 0 then -roundPos (-v) else roundPos v

theorem rounding_of_nonneg {v : ℚ} (hv : 0 ≤ v) : rounding v = roundPos v :=
  if_neg (not_lt.2 hv)

theorem rounding_zero : rounding 0 = 0 := by
  rw [rounding_of_nonneg le_rfl, roundPos_zero]

theorem rounding_neg (v : ℚ) : rounding (-v) = -rounding v := by
  unfold rounding
  rcases lt_trichotomy v 0 with hneg | rfl | hpos
  · rw [if_neg (by linarith), if_pos hneg, neg_neg]
  · simp [roundPos_zero]
  · rw [if_pos (by linarith), if_neg (by linarith), neg_neg]

theorem rounding_nonneg {v : ℚ} (hv : 0 ≤ v) : 0 ≤ rounding v := by
  rw [rounding_of_nonneg hv]
  exact roundPos_nonneg v

theorem rounding_nonpos {v : ℚ} (hv : v ≤ 0) : rounding v ≤ 0 := by
  have h := rounding_nonneg (neg_nonneg.2 hv)
  rw [rounding_neg] at h
  linarith

/-- **Rounding keeps the order.** -/
theorem rounding_mono {v w : ℚ} (h : v ≤ w) : rounding v ≤ rounding w := by
  rcases le_total 0 v with hv | hv
  · rw [rounding_of_nonneg hv, rounding_of_nonneg (hv.trans h)]
    exact roundPos_mono hv h
  · rcases le_total 0 w with hw | hw
    · exact (rounding_nonpos hv).trans (rounding_nonneg hw)
    · have hmono := roundPos_mono (neg_nonneg.2 hw) (neg_le_neg h)
      rw [← rounding_of_nonneg (neg_nonneg.2 hw), ← rounding_of_nonneg (neg_nonneg.2 hv),
        rounding_neg, rounding_neg] at hmono
      linarith

theorem abs_rounding (v : ℚ) : |rounding v| = rounding |v| := by
  rcases le_total 0 v with hv | hv
  · rw [abs_of_nonneg hv, abs_of_nonneg (rounding_nonneg hv)]
  · rw [abs_of_nonpos hv, abs_of_nonpos (rounding_nonpos hv), rounding_neg]

theorem rounding_dyadic {m : Nat} {e : Int} (hm : m < 2 ^ 53) (he : -1074 ≤ e) :
    rounding (dyadic m e) = dyadic m e := by
  rw [rounding_of_nonneg (dyadic_nonneg m e), roundPos_dyadic hm he]

theorem rounding_two_pow (k : Nat) : rounding (2 ^ k) = 2 ^ k := by
  have hvalue : dyadic 1 k = 2 ^ k := by
    unfold dyadic
    rw [Nat.cast_one, one_mul, zpow_natCast]
  rw [← hvalue]
  exact rounding_dyadic (by decide) (by omega)

theorem rounding_one : rounding 1 = 1 := by
  have h := rounding_two_pow 0
  rwa [pow_zero] at h

/-- **What is bounded by a power of two is rounded to what is bounded by it.** -/
theorem abs_rounding_le {v : ℚ} {k : Nat} (h : |v| ≤ 2 ^ k) : |rounding v| ≤ 2 ^ k := by
  rw [abs_rounding, ← rounding_two_pow k]
  exact rounding_mono h

/-- What is added to a power of two is lost if it is less than half of the distance to the next point of
    the grid. -/
theorem rounding_le_two_pow {v : ℚ} {k : Nat} (h : v ≤ 2 ^ k + 2 ^ k / 2 ^ 54) :
    rounding v ≤ 2 ^ k := by
  rcases le_or_gt v (2 ^ k) with hle | hgt
  · rw [← rounding_two_pow k]
    exact rounding_mono hle
  have hpow : (0 : ℚ) < 2 ^ k := pow_pos two_pos k
  have hv : 0 < v := hpow.trans hgt
  have hlog : Int.log 2 v = k := by
    refine log_eq ?_ ?_
    · rw [zpow_natCast]
      exact hgt.le
    · rw [zpow_add_one₀ two_ne_zero, zpow_natCast]
      have hsmall : (2 : ℚ) ^ k / 2 ^ 54 < 2 ^ k := div_lt_self hpow (by norm_num)
      linarith
  have hgrid : gridExponent v = k - 52 := by
    unfold gridExponent
    omega
  -- In units of the grid the number is a quarter above a point at the most.
  have hscale : (2 : ℚ) ^ k = 2 ^ 52 * 2 ^ ((k : Int) - 52) := by
    rw [← zpow_natCast 2 52, ← zpow_add₀ two_ne_zero, ← zpow_natCast]
    congr 1
    omega
  have hunits : v / 2 ^ ((k : Int) - 52) ≤ 2 ^ 52 + 1 / 4 := by
    rw [div_le_iff₀ (two_zpow_pos _)]
    rw [hscale] at h
    linarith
  have hpoint : nearestEven (v / 2 ^ ((k : Int) - 52)) ≤ 2 ^ 52 := by
    have hunits' : 0 ≤ v / 2 ^ ((k : Int) - 52) := div_nonneg hv.le (two_zpow_pos _).le
    have herr := (abs_le.1 (abs_nearestEven_sub_le hunits')).2
    have hlt : (nearestEven (v / 2 ^ ((k : Int) - 52)) : ℚ) < ((2 ^ 52 + 1 : Nat) : ℚ) := by
      push_cast
      linarith
    exact Nat.le_of_lt_succ (by exact_mod_cast hlt)
  rw [rounding_of_nonneg hv.le]
  unfold roundPos dyadic
  rw [hgrid, hscale]
  exact mul_le_mul_of_nonneg_right (by exact_mod_cast hpoint) (two_zpow_pos _).le

end Decimal
end Infochart
