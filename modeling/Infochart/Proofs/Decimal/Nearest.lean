import Mathlib.Tactic.FieldSimp
import Infochart.Proofs.Decimal.Bounded
import Infochart.Proofs.Decimal.Whole

/-!
# Correct rounding

A decimal reads back as a binary number exactly where that number is the nearest one, and `IsNearest` is
this interval over the rationals (`isNearest_of_readsBack`). The conversion of an integer and the quotient
of two numbers round to the number that is nearest to the exact result (`ofFloat_ofNat_nearest`,
`ofFloat_div_nearest`), as long as that has its leading bit.

The reader of decimals and the operations are written for different purposes: the one tests whether a
decimal lies in an interval, the others cut bits off. `IsNearest` is what both are compared with, and a
number is nearest to at most one significand and exponent (`IsNearest.exponent`), so they cannot disagree.
-/

namespace Infochart
namespace Decimal

open Float.Model (UnpackedFloat Format totalExponent)
open Float.Model.UnpackedFloat

/-- Whether a positive number is rounded to `m · 2 ^ q`: it lies between the two points half-way to the
    neighbouring numbers, and on them only if the significand is even. Below a power of two the lower
    neighbour is only half as far. -/
structure IsNearest (v : ℚ) (m : Nat) (q : Int) : Prop where
  low : (m - 1 / 2 : ℚ) * 2 ^ q ≤ v
  high : v ≤ (m + 1 / 2 : ℚ) * 2 ^ q
  odd : m % 2 = 1 → (m - 1 / 2 : ℚ) * 2 ^ q < v ∧ v < (m + 1 / 2 : ℚ) * 2 ^ q
  narrow : m = 2 ^ 52 → -1074 < q → (m - 1 / 4 : ℚ) * 2 ^ q ≤ v

/-! ## Decimals that read back -/

theorem powerRatio_eq_zpow {base : Nat} (hbase : 0 < base) (e : Int) :
    ((powerRatio base e).1 : ℚ) = base ^ e * (powerRatio base e).2 := by
  have hne : (base : ℚ) ≠ 0 := Nat.cast_ne_zero.2 (Nat.pos_iff_ne_zero.1 hbase)
  rcases Int.lt_or_le e 0 with hneg | hpos
  · obtain ⟨n, rfl⟩ := Int.exists_eq_neg_ofNat (Int.le_of_lt hneg)
    rw [powerRatio_neg_natCast, zpow_neg, zpow_natCast, Nat.cast_pow, Nat.cast_one,
      inv_mul_cancel₀ (pow_ne_zero n hne)]
  · obtain ⟨n, rfl⟩ := Int.eq_ofNat_of_zero_le hpos
    rw [powerRatio_natCast, zpow_natCast, Nat.cast_pow, Nat.cast_one, mul_one]

/-- `readsBack` compares integers: an end of the interval and the decimal, both multiplied by the divisors of
    the two powers. So they are compared as the rational numbers are. -/
theorem exists_common_divisor (a d : Nat) (q k : Int) : ∃ c : ℚ, 0 < c ∧
    ((a * ((powerRatio 2 q).1 * (powerRatio 10 k).2) : Nat) : ℚ) = a * 2 ^ q * c ∧
    ((4 * d * (powerRatio 10 k).1 * (powerRatio 2 q).2 : Nat) : ℚ) = 4 * (d * 10 ^ k) * c := by
  have hten := @powerRatio_eq_zpow 10 (by decide) k
  have htwo := @powerRatio_eq_zpow 2 (by decide) q
  have hpos : 0 < (powerRatio 2 q).2 * (powerRatio 10 k).2 :=
    Nat.mul_pos (Nat.two_pow_pos _) (Nat.pow_pos (by decide))
  refine ⟨((powerRatio 2 q).2 * (powerRatio 10 k).2 : Nat), Nat.cast_pos.2 hpos, ?_, ?_⟩
  · push_cast
    rw [htwo]
    push_cast
    ring
  · push_cast
    rw [hten]
    push_cast
    ring

/-- One end of the interval against a decimal. -/
theorem end_le_point_iff (a d : Nat) (q k : Int) :
    a * ((powerRatio 2 q).1 * (powerRatio 10 k).2) ≤
        4 * d * (powerRatio 10 k).1 * (powerRatio 2 q).2 ↔
      (a * 2 ^ q : ℚ) ≤ 4 * (d * 10 ^ k) := by
  obtain ⟨c, hc, hend, hpoint⟩ := exists_common_divisor a d q k
  rw [← @Nat.cast_le ℚ, hend, hpoint, mul_le_mul_iff_of_pos_right hc]

theorem point_le_end_iff (a d : Nat) (q k : Int) :
    4 * d * (powerRatio 10 k).1 * (powerRatio 2 q).2 ≤
        a * ((powerRatio 2 q).1 * (powerRatio 10 k).2) ↔
      4 * (d * 10 ^ k) ≤ (a * 2 ^ q : ℚ) := by
  obtain ⟨c, hc, hend, hpoint⟩ := exists_common_divisor a d q k
  rw [← @Nat.cast_le ℚ, hend, hpoint, mul_le_mul_iff_of_pos_right hc]

/-- **Where a decimal reads back the number is nearest to it.** -/
theorem isNearest_of_readsBack {m d : Nat} {q k : Int} (hm : 0 < m)
    (h : readsBack m q d k = true) : IsNearest (d * 10 ^ k) m q := by
  have hpos := two_zpow_pos q
  unfold readsBack at h
  by_cases hnarrow : m = Nat.pow 2 52 ∧ -1074 < q
  · -- The lower end is a quarter of the last place away, and the significand is even.
    have heven : m % 2 = 0 := by
      rw [hnarrow.1]
    have hend : ((4 * m - 1 : Nat) : ℚ) = 4 * m - 1 := by
      rw [Nat.cast_sub (by omega)]
      push_cast
      rfl
    simp only [if_pos hnarrow, if_pos heven, Bool.and_eq_true, decide_eq_true_eq, end_le_point_iff,
      point_le_end_iff, hend] at h
    obtain ⟨hlow, hhigh⟩ := h
    push_cast at hhigh
    refine ⟨by linarith, by linarith, fun hodd => by omega, fun _ _ => by linarith⟩
  · have hend : ((4 * m - 2 : Nat) : ℚ) = 4 * m - 2 := by
      rw [Nat.cast_sub (by omega)]
      push_cast
      rfl
    have hnot : m = 2 ^ 52 → -1074 < q → (m - 1 / 4 : ℚ) * 2 ^ q ≤ d * 10 ^ k :=
      fun hm' hq => absurd ⟨hm', hq⟩ hnarrow
    by_cases heven : m % 2 = 0
    · simp only [if_neg hnarrow, if_pos heven, Bool.and_eq_true, decide_eq_true_eq,
        end_le_point_iff, point_le_end_iff, hend] at h
      obtain ⟨hlow, hhigh⟩ := h
      push_cast at hhigh
      exact ⟨by linarith, by linarith, fun hodd => by omega, hnot⟩
    · simp only [if_neg hnarrow, if_neg heven, Bool.and_eq_true, decide_eq_true_eq] at h
      rw [← Nat.not_le, ← Nat.not_le, point_le_end_iff, end_le_point_iff, not_le, not_le, hend] at h
      obtain ⟨hlow, hhigh⟩ := h
      push_cast at hhigh
      have hstrict : (m - 1 / 2 : ℚ) * 2 ^ q < d * 10 ^ k ∧
          (d * 10 ^ k : ℚ) < (m + 1 / 2) * 2 ^ q := ⟨by linarith, by linarith⟩
      exact ⟨hstrict.1.le, hstrict.2.le, fun _ => hstrict, hnot⟩

/-! ## Rounding -/

/-- The nearest integer, over the rationals. -/
theorem roundDiv_eq_of_half {num den m : Nat} (hden : 0 < den) (hlow : (m - 1 / 2 : ℚ) ≤ num / den)
    (hhigh : (num / den : ℚ) ≤ m + 1 / 2)
    (hodd : m % 2 = 1 → (m - 1 / 2 : ℚ) < num / den ∧ (num / den : ℚ) < m + 1 / 2) :
    roundDiv num den .toEven = m := by
  have hpos : (0 : ℚ) < den := Nat.cast_pos.2 hden
  rw [le_div_iff₀ hpos] at hlow
  rw [div_le_iff₀ hpos] at hhigh
  refine roundDiv_eq ?_ ?_ (fun hone => ?_) hden
  · have hcast : (2 * (m * den) : ℚ) ≤ 2 * num + den := by linarith
    exact_mod_cast hcast
  · have hcast : (2 * num : ℚ) ≤ 2 * (m * den) + den := by linarith
    exact_mod_cast hcast
  · obtain ⟨hlow', hhigh'⟩ := hodd hone
    rw [lt_div_iff₀ hpos] at hlow'
    rw [div_lt_iff₀ hpos] at hhigh'
    have hcast : (2 * (m * den) : ℚ) < 2 * num + den := by linarith
    have hcast' : (2 * num : ℚ) < 2 * (m * den) + den := by linarith
    exact ⟨by exact_mod_cast hcast, by exact_mod_cast hcast'⟩

/-- A number with its leading bit before the point `f` is nearest to one with the same exponent, or so
    close below the next power of two that it is nearest to that. -/
theorem IsNearest.exponent {t : ℚ} {m : Nat} {q f : Int} (h : IsNearest (t * 2 ^ f) m q)
    (hlow : 2 ^ 52 ≤ m) (hhigh : m < 2 ^ 53) (hf : -1074 ≤ f) (ht : 2 ^ 52 ≤ t) (ht' : t < 2 ^ 53) :
    (q = f ∧ m - 1 / 2 ≤ t ∧ t ≤ m + 1 / 2 ∧ (m % 2 = 1 → m - 1 / 2 < t ∧ t < m + 1 / 2)) ∨
      (q = f + 1 ∧ m = 2 ^ 52 ∧ 2 ^ 53 - 1 / 2 ≤ t) := by
  have hpos := two_zpow_pos f
  have hlowq : (2 ^ 52 : ℚ) ≤ m := by exact_mod_cast hlow
  have hhighq : (m : ℚ) ≤ 2 ^ 53 - 1 := by
    have hle : m + 1 ≤ 2 ^ 53 := hhigh
    have hcast : ((m + 1 : Nat) : ℚ) ≤ 2 ^ 53 := by exact_mod_cast hle
    push_cast at hcast
    linarith
  rcases Int.lt_trichotomy q f with hlt | rfl | hgt
  · -- The whole interval lies below the power of two.
    obtain ⟨n, hn⟩ : ∃ n : Nat, f = q + (n + 1 : Nat) := ⟨(f - q - 1).toNat, by omega⟩
    have hscale : t * 2 ^ f = t * 2 ^ (n + 1) * 2 ^ q := by
      rw [hn, zpow_add₀ two_ne_zero, zpow_natCast]
      ring
    have hle : t * 2 ^ (n + 1) ≤ m + 1 / 2 := by
      have hupper := h.high
      rw [hscale] at hupper
      exact le_of_mul_le_mul_right hupper (two_zpow_pos q)
    have htwo : (2 : ℚ) ≤ 2 ^ (n + 1) := le_self_pow₀ (by norm_num) (Nat.succ_ne_zero n)
    have hbig : (2 ^ 52 * 2 : ℚ) ≤ t * 2 ^ (n + 1) := mul_le_mul ht htwo (by norm_num) (by linarith)
    linarith
  · refine .inl ⟨rfl, ?_, ?_, fun hodd => ⟨?_, ?_⟩⟩
    · exact le_of_mul_le_mul_right h.low hpos
    · exact le_of_mul_le_mul_right h.high hpos
    · exact lt_of_mul_lt_mul_right (h.odd hodd).1 hpos.le
    · exact lt_of_mul_lt_mul_right (h.odd hodd).2 hpos.le
  · obtain ⟨n, hn⟩ : ∃ n : Nat, q = f + (n + 1 : Nat) := ⟨(q - f - 1).toNat, by omega⟩
    have hscale : ∀ r : ℚ, r * 2 ^ q = r * 2 ^ (n + 1) * 2 ^ f := by
      intro r
      rw [hn, zpow_add₀ two_ne_zero, zpow_natCast]
      ring
    have htwo : (2 : ℚ) ≤ 2 ^ (n + 1) := le_self_pow₀ (by norm_num) (Nat.succ_ne_zero n)
    -- The number lies below the significand of the interval, so that is the smallest one.
    have hle : (m - 1 / 2) * 2 ^ (n + 1) ≤ t := by
      have hlower := h.low
      rw [hscale] at hlower
      exact le_of_mul_le_mul_right hlower hpos
    have hsmall : (m - 1 / 2 : ℚ) * 2 ≤ t :=
      (mul_le_mul_of_nonneg_left htwo (by linarith)).trans hle
    have hm : m = 2 ^ 52 := by
      have hcast : (m : ℚ) < ((2 ^ 52 + 1 : Nat) : ℚ) := by
        push_cast
        linarith
      have hlt : m < 2 ^ 52 + 1 := by exact_mod_cast hcast
      omega
    have hquarter : (m - 1 / 4 : ℚ) * 2 ^ (n + 1) ≤ t := by
      have hlower := h.narrow hm (by omega)
      rw [hscale] at hlower
      exact le_of_mul_le_mul_right hlower hpos
    have hmq : (m : ℚ) = 2 ^ 52 := by exact_mod_cast hm
    rw [hmq] at hquarter
    cases n with
    | zero =>
      refine .inr ⟨hn, hm, ?_⟩
      rw [Nat.zero_add, pow_one] at hquarter
      linarith
    | succ n =>
      have hfour : (4 : ℚ) ≤ 2 ^ (n + 1 + 1) := by
        have hone : (1 : ℚ) ≤ 2 ^ n := one_le_pow₀ (by norm_num)
        rw [pow_succ, pow_succ]
        linarith
      have hbig : ((2 ^ 52 - 1 / 4 : ℚ) * 4) ≤ t :=
        (mul_le_mul_of_nonneg_left hfour (by norm_num)).trans hquarter
      linarith

/-- **Rounding finds the nearest number.** What is rounded stands for a quotient with a power of two. There
    are two cases because rounding up may give a significand with one bit too many; the nearest number is
    the next power of two then, with an exponent that is one greater. -/
theorem roundWithAccuracy_nearest (s : Sign) {n num den m : Nat} {e q : Int} {acc : Accuracy}
    (hrep : Represents (ExtendedMantissa.ofMantissaAndAccuracy n acc) num den) (hden : 0 < den)
    (hn : 2 ^ 52 ≤ n) (he : -1074 ≤ e) (hm : 0 < m) (hlow : 2 ^ 52 ≤ m) (hhigh : m < 2 ^ 53)
    (h : IsNearest (num / den * 2 ^ e) m q) :
    roundWithAccuracy Format.binary64 s n e acc = .finite s m q hm := by
  obtain ⟨k, hk⟩ : ∃ k, n.log2 = 52 + k :=
    Nat.exists_eq_add_of_le ((Nat.le_log2 (by omega)).2 hn)
  have hnlow : 2 ^ (52 + k) ≤ n := hk ▸ Nat.log2_self_le (by omega)
  have hnhigh : n < 2 ^ (53 + k) := by
    have hlt := @Nat.lt_log2_self n
    rwa [hk, Nat.add_right_comm] at hlt
  have hcut : 0 < den * 2 ^ k := Nat.mul_pos hden (Nat.two_pow_pos k)
  have hcut' : (0 : ℚ) < ((den * 2 ^ k : Nat) : ℚ) := Nat.cast_pos.2 hcut
  -- The quotient that is left of the number has 53 bits before the point.
  have hquotient : num / (den * 2 ^ k) = n / 2 ^ k := by
    rw [eq_div_of_represents hrep, Nat.div_div_eq_div_mul]
  have htlow : (2 ^ 52 : ℚ) ≤ num / ((den * 2 ^ k : Nat) : ℚ) := by
    have hle : 2 ^ 52 ≤ num / (den * 2 ^ k) := by
      rw [hquotient, Nat.le_div_iff_mul_le (Nat.two_pow_pos k), ← Nat.pow_add]
      exact hnlow
    rw [le_div_iff₀ hcut']
    exact_mod_cast (Nat.le_div_iff_mul_le hcut).1 hle
  have hthigh : (num / ((den * 2 ^ k : Nat) : ℚ)) < 2 ^ 53 := by
    have hlt : num / (den * 2 ^ k) < 2 ^ 53 := by
      rw [hquotient, Nat.div_lt_iff_lt_mul (Nat.two_pow_pos k), ← Nat.pow_add]
      exact hnhigh
    rw [div_lt_iff₀ hcut']
    exact_mod_cast (Nat.div_lt_iff_lt_mul hcut).1 hlt
  have hscale : (num / den * 2 ^ e : ℚ) = num / ((den * 2 ^ k : Nat) : ℚ) * 2 ^ (e + k) := by
    rw [zpow_add₀ two_ne_zero, zpow_natCast]
    push_cast
    field_simp
  have hek : -1074 ≤ e + (k : Int) := by omega
  rw [hscale] at h
  obtain ⟨m', e', hm', heq, hmin, hmax, -, hvalue⟩ :=
    roundWithAccuracy_eq s hrep hden hnlow hnhigh hek
  refine heq.trans ?_
  rcases h.exponent hlow hhigh hek htlow hthigh with
    ⟨rfl, hlower, hupper, hodd⟩ | ⟨rfl, rfl, hlower⟩
  · have hround := roundDiv_eq_of_half hcut hlower hupper hodd
    rw [hround] at hvalue
    rcases hvalue with ⟨rfl, rfl⟩ | ⟨htop, -⟩
    · rfl
    · omega
  · -- The nearest integer is the next power of two, one bit too long.
    have hround : roundDiv num (den * 2 ^ k) .toEven = 2 ^ 53 := by
      refine roundDiv_eq_of_half hcut ?_ ?_ (fun hodd => absurd hodd (by decide))
      · push_cast at hlower ⊢
        exact hlower
      · push_cast at hthigh ⊢
        linarith
    rw [hround] at hvalue
    rcases hvalue with ⟨rfl, -⟩ | ⟨htop, rfl⟩
    · omega
    · exact finite_congr (by omega) rfl

/-- A number is nearest to no other number with a leading bit. Of its two cases `IsNearest.exponent` leaves
    the first: the second needs a number less than a unit below the next power of two, and significands are
    integers. -/
theorem IsNearest.eq_of_dyadic {m n : Nat} {q e : Int} (h : IsNearest (dyadic n e) m q)
    (hlow : 2 ^ 52 ≤ m) (hhigh : m < 2 ^ 53) (he : -1074 ≤ e) (hnlow : 2 ^ 52 ≤ n)
    (hnhigh : n < 2 ^ 53) : n = m ∧ e = q := by
  have ht : (2 ^ 52 : ℚ) ≤ n := by exact_mod_cast hnlow
  have ht' : (n : ℚ) + 1 ≤ 2 ^ 53 := by exact_mod_cast hnhigh
  rcases h.exponent hlow hhigh he ht (by linarith) with ⟨rfl, hlower, hupper, -⟩ | ⟨-, -, hlower⟩
  · have hle : (n : ℚ) < ((m + 1 : Nat) : ℚ) := by
      push_cast
      linarith
    have hge : (m : ℚ) < ((n + 1 : Nat) : ℚ) := by
      push_cast
      linarith
    have hle' : n < m + 1 := by exact_mod_cast hle
    have hge' : m < n + 1 := by exact_mod_cast hge
    exact ⟨by omega, rfl⟩
  · linarith

/-- A number that is not too small is nearest to one with a leading bit. -/
theorem IsNearest.two_pow_le {v : ℚ} {m : Nat} {q : Int} (h : IsNearest v m q)
    (hc : Binary.Canonical m q) (hv : 2 ^ (-1022 : Int) ≤ v) : 2 ^ 52 ≤ m := by
  rcases hc.leading with rfl | hlow
  · by_contra hsmall
    have hm : (m : ℚ) + 1 ≤ 2 ^ 52 := by exact_mod_cast Nat.lt_of_not_le hsmall
    have hle : v ≤ (2 ^ 52 - 1 / 2) * 2 ^ (-1074 : Int) :=
      h.high.trans (mul_le_mul_of_nonneg_right (by linarith) (two_zpow_pos _).le)
    have hpow : (2 : ℚ) ^ (52 : Int) * 2 ^ (-1074 : Int) = 2 ^ (-1022 : Int) := by
      rw [← zpow_add₀ two_ne_zero]
      rfl
    have hlt : ((2 : ℚ) ^ 52 - 1 / 2) * 2 ^ (-1074 : Int) < 2 ^ (-1022 : Int) := by
      rw [← hpow]
      exact mul_lt_mul_of_pos_right (by norm_num) (two_zpow_pos _)
    linarith
  · exact hlow

/-! ## Operations -/

/-- **The conversion of an integer of 64 bits finds the nearest number.** Up to 53 bits it is exact, and the
    nearest number to a number is itself; longer integers are rounded. -/
theorem ofFloat_ofNat_nearest {n m : Nat} {q : Int} (hn : 0 < n) (h64 : n < 2 ^ 64)
    (hc : Binary.Canonical m q) (h : IsNearest n m q) :
    Binary.ofFloat (Float.ofNat n) = .finite false m q := by
  have hone : (1 : ℚ) ≤ n := by exact_mod_cast hn
  have hlow : 2 ^ 52 ≤ m := by
    exact h.two_pow_le hc ((zpow_le_one_of_nonpos₀ one_le_two (by decide)).trans hone)
  by_cases hlt : n < 2 ^ 53
  · obtain ⟨m', q', hs, hf⟩ := exists_shifted hn hlt.le
    obtain ⟨hlow', hhigh', hqlow, -⟩ := hs.bounds
    rw [← hs.dyadic_eq] at h
    obtain ⟨rfl, rfl⟩ := h.eq_of_dyadic hlow hc.lt (by omega) hlow' hhigh'
    exact hf
  · have hdef : Float.ofNat n = Float.ofScientific n false 0 := rfl
    have hlong : 2 ^ 52 ≤ n <<< 53 * 10 ^ 0 := by
      rw [Nat.shiftLeft_eq, Nat.pow_zero, Nat.mul_one]
      omega
    have hvalue : (((n <<< 53 * 10 ^ 0 : Nat) : ℚ) / (1 : Nat) * 2 ^ (-53 + 0 : Int)) = n := by
      rw [Nat.shiftLeft_eq]
      push_cast
      norm_num
      ring
    rw [← hvalue] at h
    have hround := roundWithAccuracy_nearest .positive (represents_exact (n <<< 53 * 10 ^ 0))
      Nat.one_pos hlong (by decide) hc.pos hlow hc.lt h
    have hmodel : Float.ofScientific n false 0 = .ofModel (.pack (.finite .positive m q hc.pos)) := by
      rw [← hround, ← ofScientific_model hn (by decide)]
      exact ofScientific_zero hlt
    rw [hdef, hmodel]
    exact ofFloat_pack .positive hc.pos hlow hc.lt hc.low hc.high

/-- **A quotient is the nearest number to the exact quotient.** -/
theorem ofFloat_div_nearest {x y : Float} {m n l : Nat} {e f q : Int}
    (hx : Binary.ofFloat x = .finite false m e) (hy : Binary.ofFloat y = .finite false n f)
    (hmlow : 2 ^ 52 ≤ m) (hmhigh : m < 2 ^ 53) (hnlow : 2 ^ 52 ≤ n) (hnhigh : n < 2 ^ 53)
    (hef : -1021 ≤ e - f) (hc : Binary.Canonical l q) (hlow : 2 ^ 52 ≤ l)
    (h : IsNearest (dyadic m e / dyadic n f) l q) :
    Binary.ofFloat (x / y) = .finite false l q := by
  have hm : 0 < m := by omega
  have hn : 0 < n := by omega
  have hmodel : x / y = .ofModel (.pack (UnpackedFloat.div Format.binary64 x.toModel.unpack
      y.toModel.unpack)) := rfl
  have hmlog : m.log2 = 52 := log2_eq hmlow hmhigh
  have hnlog : n.log2 = 52 := log2_eq hnlow hnhigh
  -- The quotient is computed of a numerator with 53 zeros behind it, enough for all its bits.
  have hcore : divCore Format.binary64 m e n f =
      (m * 2 ^ 53 / n, e - f - 53, accuracyOfFraction (m * 2 ^ 53 % n) n) := by
    have htarget : min (e - f) (Format.binary64.targetExponent
        (totalExponent m e - totalExponent n f)) = e - f - 53 := by
      unfold Format.targetExponent totalExponent
      rw [hmlog, hnlog]
      show min (e - f) (max (((52 : Nat) : Int) + 1 + e - (((52 : Nat) : Int) + 1 + f) - 53) (-1074))
        = _
      omega
    have hshift : (e - f - (e - f - 53)).toNat = 53 := by omega
    unfold divCore
    simp only [htarget, hshift, Nat.shiftLeft_eq]
  have hlong : 2 ^ 52 ≤ m * 2 ^ 53 / n := by
    rw [Nat.le_div_iff_mul_le hn]
    omega
  have hvalue : (((m * 2 ^ 53 : Nat) : ℚ) / n * 2 ^ (e - f - 53)) = dyadic m e / dyadic n f := by
    unfold dyadic
    rw [zpow_sub₀ two_ne_zero, zpow_sub₀ two_ne_zero]
    push_cast
    field_simp
  rw [← hvalue] at h
  have hround := roundWithAccuracy_nearest .positive (represents_fraction hn) hn hlong
    (by omega) hc.pos hlow hc.lt h
  have hquotient : UnpackedFloat.div Format.binary64 (.finite .positive m e hm)
      (.finite .positive n f hn) = .finite .positive l q hc.pos := by
    show roundWithAccuracy Format.binary64 .positive (divCore Format.binary64 m e n f).1
      (divCore Format.binary64 m e n f).2.1 (divCore Format.binary64 m e n f).2.2 = _
    rw [hcore]
    exact hround
  rw [hmodel, unpack_of_finite hm hx, unpack_of_finite hn hy]
  show Binary.ofFloat (.ofModel (.pack (UnpackedFloat.div Format.binary64 (.finite .positive m e hm)
    (.finite .positive n f hn)))) = _
  rw [hquotient]
  exact ofFloat_pack .positive hc.pos hlow hc.lt hc.low hc.high

end Decimal
end Infochart
