import Mathlib.Tactic.GCongr
import Mathlib.Tactic.LinearCombination
import Infochart.Proofs.Decimal.Whole

/-!
# How long shortest decimals are

A shortest decimal reads back as its number, and its digits fit 64 bits, whatever the number. A grid
finer than three quarters of the last place has a point that reads back, so the walk ends in time, and
on a grid that is hardly finer than that; and on such a grid a decimal has not many more digits than the
significand of its number.
-/

namespace Infochart
namespace Decimal

/-- The last place of a number with the exponent `q`, in the unit of `spacing`. -/
def place (q k : Int) : Nat :=
  (powerRatio 2 q).1 * (powerRatio 10 k).2

/-- The distance of two points on the grid of `10 ^ k`, in the unit of `place`. -/
def spacing (q k : Int) : Nat :=
  (powerRatio 2 q).2 * (powerRatio 10 k).1

theorem place_pos (q k : Int) : 0 < place q k :=
  Nat.mul_pos (Nat.two_pow_pos _) (Nat.pow_pos (by decide))

theorem spacing_pos (q k : Int) : 0 < spacing q k :=
  Nat.mul_pos (Nat.two_pow_pos _) (Nat.pow_pos (by decide))

theorem powerRatio_succ (base : Nat) (e : Int) :
    (powerRatio base (e + 1)).1 * (powerRatio base e).2 =
      base * ((powerRatio base e).1 * (powerRatio base (e + 1)).2) := by
  rcases Int.lt_or_le e 0 with hneg | hpos
  · obtain ⟨n, rfl⟩ : ∃ n : Nat, e = -((n + 1 : Nat) : Int) := ⟨(-e - 1).toNat, by omega⟩
    have hnext : -((n + 1 : Nat) : Int) + 1 = -(n : Int) := by omega
    rw [hnext, powerRatio_neg_natCast, powerRatio_neg_natCast, Nat.pow_succ]
    ring
  · obtain ⟨n, rfl⟩ := Int.eq_ofNat_of_zero_le hpos
    have hnext : (n : Int) + 1 = ((n + 1 : Nat) : Int) := by omega
    rw [hnext, powerRatio_natCast, powerRatio_natCast, Nat.pow_succ]
    ring

/-- One grid is ten times finer than the next. -/
theorem spacing_succ (q k : Int) :
    spacing q (k + 1) * place q k = 10 * (spacing q k * place q (k + 1)) := by
  unfold spacing place
  calc (powerRatio 2 q).2 * (powerRatio 10 (k + 1)).1 * ((powerRatio 2 q).1 * (powerRatio 10 k).2)
      = (powerRatio 2 q).2 * (powerRatio 2 q).1 *
          ((powerRatio 10 (k + 1)).1 * (powerRatio 10 k).2) := by ring
    _ = _ := by
      rw [powerRatio_succ]
      ring

/-- One place is half of the next. -/
theorem place_add (q k : Int) (n : Nat) :
    place (q + n) k * spacing q k = 2 ^ n * (place q k * spacing (q + n) k) := by
  induction n with
  | zero =>
    rw [Int.natCast_zero, Int.add_zero]
    ring
  | succ n ih =>
    have hnext : q + (n + 1 : Nat) = q + n + 1 := by omega
    have htwo : place (q + n + 1) k * spacing (q + n) k =
        2 * (place (q + n) k * spacing (q + n + 1) k) := by
      unfold spacing place
      linear_combination ((powerRatio 10 k).2 * (powerRatio 10 k).1) * powerRatio_succ 2 (q + n)
    rw [hnext]
    refine Nat.eq_of_mul_eq_mul_left (spacing_pos (q + n) k) ?_
    linear_combination spacing q k * htwo + 2 * spacing (q + n + 1) k * ih

section Grid

variable {m d : Nat} {q k : Int}

/-- A decimal reads back if it lies less than a quarter of the last place below the number, or less than
    half of it above. -/
theorem readsBack_of_close (hm : 0 < m)
    (hlow : 4 * (m * place q k) < 4 * (d * spacing q k) + place q k)
    (hhigh : 4 * (d * spacing q k) < 4 * (m * place q k) + 2 * place q k) :
    readsBack m q d k = true := by
  have hpoint : 4 * d * (powerRatio 10 k).1 * (powerRatio 2 q).2 = 4 * (d * spacing q k) := by
    unfold spacing
    ring
  have hself : place q k ≤ m * place q k := Nat.le_mul_of_pos_left _ hm
  refine readsBack_of_bounds ?_ ?_
  · show (4 * m - 1) * place q k < _
    rw [hpoint, Nat.sub_mul, Nat.one_mul, Nat.mul_assoc]
    have hplace := place_pos q k
    omega
  · show _ < (4 * m + 2) * place q k
    rw [hpoint, Nat.add_mul, Nat.mul_assoc]
    exact hhigh

theorem le_of_readsBack (h : readsBack m q d k = true) :
    4 * (d * spacing q k) ≤ 4 * (m * place q k) + 2 * place q k := by
  have hpoint : 4 * d * (powerRatio 10 k).1 * (powerRatio 2 q).2 = 4 * (d * spacing q k) := by
    unfold spacing
    ring
  have hb : _ ≤ (4 * m + 2) * place q k := (bounds_of_readsBack h).2
  rw [hpoint, Nat.add_mul, Nat.mul_assoc] at hb
  exact hb

/-- Neither neighbour reads back where a grid has no point. -/
theorem neighbours_of_onGrid_eq_none {tie : Tie} (h : onGrid tie m q k = none) (hd : 0 < d)
    (hquotient : m * place q k / spacing q k = d) :
    readsBack m q d k = false ∧ readsBack m q (d + 1) k = false := by
  have hfloor : m * (powerRatio 2 q).1 * (powerRatio 10 k).2 /
      ((powerRatio 2 q).2 * (powerRatio 10 k).1) = d := by
    rw [Nat.mul_assoc]
    exact hquotient
  unfold onGrid at h
  simp only [hfloor, hd, decide_true, Bool.true_and] at h
  split at h
  · cases h
  · cases h
  · cases h
  · rename_i hbelow habove
    exact ⟨hbelow, habove⟩

/-- **A grid without a point that reads back is not fine.** -/
theorem place_le_of_onGrid_eq_none {tie : Tie} (hm : 0 < m) (h : onGrid tie m q k = none) :
    3 * place q k ≤ 4 * spacing q k := by
  by_contra hfine
  have hplace := place_pos q k
  have hself : place q k ≤ m * place q k := Nat.le_mul_of_pos_left _ hm
  have hsplit := Nat.div_add_mod' (m * place q k) (spacing q k)
  have hrest := Nat.mod_lt (m * place q k) (spacing_pos q k)
  have hbelow : 0 < m * place q k / spacing q k := Nat.div_pos (by omega) (spacing_pos q k)
  obtain ⟨hdown, hup⟩ := neighbours_of_onGrid_eq_none h hbelow rfl
  have hnext : (m * place q k / spacing q k + 1) * spacing q k =
      m * place q k / spacing q k * spacing q k + spacing q k := by
    rw [Nat.add_mul, Nat.one_mul]
  -- The lower neighbour is near, or else the upper one is less than half a place away.
  by_cases hnear : 4 * (m * place q k % spacing q k) < place q k
  · rw [readsBack_of_close hm (by omega) (by omega)] at hdown
    cases hdown
  · rw [readsBack_of_close hm (by omega) (by omega)] at hup
    cases hup

/-! ## Coarse grids -/

/-- Whether a grid is not much finer than the last place. -/
def IsCoarse (q k : Int) : Prop :=
  3 * place q k ≤ 40 * spacing q k

theorem isCoarse_of_onGrid_eq_none {tie : Tie} (hm : 0 < m) (h : onGrid tie m q k = none) :
    IsCoarse q (k - 1) := by
  have hnot := place_le_of_onGrid_eq_none hm h
  have hten := spacing_succ q (k - 1)
  rw [Int.sub_add_cancel] at hten
  unfold IsCoarse
  have hplace := place_pos q k
  have hscaled : place q k * (3 * place q (k - 1)) ≤ place q k * (40 * spacing q (k - 1)) := by
    calc place q k * (3 * place q (k - 1))
        = 3 * place q k * place q (k - 1) := by ring
      _ ≤ 4 * spacing q k * place q (k - 1) := Nat.mul_le_mul_right _ hnot
      _ = 4 * (spacing q k * place q (k - 1)) := by ring
      _ = place q k * (40 * spacing q (k - 1)) := by
        rw [hten]
        ring
  exact Nat.le_of_mul_le_mul_left hscaled hplace

/-- **On a coarse grid a decimal has few digits.** -/
theorem digits_lt_of_readsBack (hm : m < 2 ^ 53) (hk : IsCoarse q k)
    (h : readsBack m q d k = true) : d < 2 ^ 64 := by
  have hle := le_of_readsBack h
  unfold IsCoarse at hk
  have hspacing := spacing_pos q k
  -- All of it in points of the grid: the last place is at most forty thirds of one.
  have hbound : 3 * (4 * (d * spacing q k)) ≤ (4 * m + 2) * (40 * spacing q k) := by
    calc 3 * (4 * (d * spacing q k))
        ≤ 3 * (4 * (m * place q k) + 2 * place q k) := Nat.mul_le_mul_left 3 hle
      _ = (4 * m + 2) * (3 * place q k) := by ring
      _ ≤ (4 * m + 2) * (40 * spacing q k) := Nat.mul_le_mul_left _ hk
  have hdigits : 12 * d ≤ (4 * m + 2) * 40 := by
    refine Nat.le_of_mul_le_mul_right ?_ hspacing
    calc 12 * d * spacing q k = 3 * (4 * (d * spacing q k)) := by ring
      _ ≤ (4 * m + 2) * (40 * spacing q k) := hbound
      _ = (4 * m + 2) * 40 * spacing q k := by ring
  omega

/-- Coarser grids are coarse. -/
theorem IsCoarse.mono (h : IsCoarse q k) (n : Nat) : IsCoarse q (k + n) := by
  induction n with
  | zero => exact (Int.add_zero k).symm ▸ h
  | succ n ih =>
    have hnext : k + (n + 1 : Nat) = k + n + 1 := by omega
    rw [hnext]
    unfold IsCoarse at ih ⊢
    have hten := spacing_succ q (k + n)
    refine Nat.le_of_mul_le_mul_left ?_ (place_pos q (k + n))
    calc place q (k + n) * (3 * place q (k + n + 1))
        = 3 * place q (k + n) * place q (k + n + 1) := by ring
      _ ≤ 40 * spacing q (k + n) * place q (k + n + 1) := Nat.mul_le_mul_right _ ih
      _ = 4 * (10 * (spacing q (k + n) * place q (k + n + 1))) := by ring
      _ = 4 * (spacing q (k + n + 1) * place q (k + n)) := by rw [hten]
      _ ≤ 40 * (spacing q (k + n + 1) * place q (k + n)) := Nat.mul_le_mul_right _ (by decide)
      _ = place q (k + n) * (40 * spacing q (k + n + 1)) := by ring

/-- Where a walk starts at the least for an exponent. It is looked at for every eighth exponent, with
    enough to spare for the seven behind it. -/
theorem start_of_eighth : ∀ i < 256,
    3 * 2 ^ 7 * place (8 * (i : Nat) - 1074) ((1 + (8 * (i : Int) - 1074)) * 30103 / 100000 + 2) ≤
      40 * spacing (8 * (i : Nat) - 1074) ((1 + (8 * (i : Int) - 1074)) * 30103 / 100000 + 2) := by
  decide +kernel

/-- The walk starts on a coarse grid. -/
theorem isCoarse_startExponent (hlow : -1074 ≤ q) (hhigh : q ≤ 971) :
    IsCoarse q (startExponent m q) := by
  obtain ⟨i, t, ht, hq⟩ : ∃ i t : Nat, t ≤ 7 ∧ q = 8 * (i : Int) - 1074 + t :=
    ⟨((q + 1074) / 8).toNat, ((q + 1074) % 8).toNat, by omega, by omega⟩
  have hstart := start_of_eighth i (by omega)
  generalize hp : 8 * (i : Int) - 1074 = p at hq hstart
  obtain ⟨n, hn⟩ : ∃ n : Nat, startExponent m q = (1 + p) * 30103 / 100000 + 2 + n := by
    refine ⟨(startExponent m q - ((1 + p) * 30103 / 100000 + 2)).toNat, ?_⟩
    unfold startExponent
    omega
  rw [hn]
  refine IsCoarse.mono ?_ n
  generalize (1 + p) * 30103 / 100000 + 2 = k at hstart
  unfold IsCoarse
  have hshift := place_add p k t
  rw [← hq] at hshift
  have hpow : 2 ^ t ≤ 2 ^ 7 := Nat.pow_le_pow_right (by decide) ht
  refine Nat.le_of_mul_le_mul_right ?_ (spacing_pos p k)
  calc 3 * place q k * spacing p k
      = 3 * 2 ^ t * place p k * spacing q k := by linear_combination 3 * hshift
    _ ≤ 3 * 2 ^ 7 * place p k * spacing q k := by gcongr
    _ ≤ 40 * spacing p k * spacing q k := Nat.mul_le_mul_right _ hstart
    _ = 40 * spacing q k * spacing p k := by ring

/-! ## The walk -/

theorem not_isCoarse_add (h : ¬ IsCoarse q k) (n : Nat) : ¬ IsCoarse (q + n) k := by
  intro hcoarse
  refine h ?_
  unfold IsCoarse at hcoarse ⊢
  have hshift := place_add q k n
  have hpow : 1 ≤ 2 ^ n := Nat.one_le_two_pow
  refine Nat.le_of_mul_le_mul_right ?_ (spacing_pos (q + n) k)
  calc 3 * place q k * spacing (q + n) k
      = 1 * (3 * (place q k * spacing (q + n) k)) := by ring
    _ ≤ 2 ^ n * (3 * (place q k * spacing (q + n) k)) := Nat.mul_le_mul_right _ hpow
    _ = 3 * place (q + n) k * spacing q k := by linear_combination 3 * hshift.symm
    _ ≤ 40 * spacing (q + n) k * spacing q k := Nat.mul_le_mul_right _ hcoarse
    _ = 40 * spacing q k * spacing (q + n) k := by ring

/-- Where a walk ends at the latest. It is looked at for every fourth exponent, with one step to spare for
    the three behind it. -/
theorem end_of_fourth : ∀ i < 512,
    40 * spacing (4 * (i : Nat) - 1074) ((53 + (4 * (i : Int) - 1074)) * 30103 / 100000 + 3 - 22) <
      3 * place (4 * (i : Nat) - 1074) ((53 + (4 * (i : Int) - 1074)) * 30103 / 100000 + 3 - 22) := by
  decide +kernel

/-- The walk would end on a fine grid. -/
theorem not_isCoarse_end (hc : Binary.Canonical m q) : ¬ IsCoarse q (startExponent m q - 22) := by
  have hlow := hc.low
  have hhigh := hc.high
  have hlog : m.log2 < 53 := (Nat.log2_lt (Nat.pos_iff_ne_zero.1 hc.pos)).2 hc.lt
  obtain ⟨i, t, ht, hq⟩ : ∃ i t : Nat, t ≤ 3 ∧ q = 4 * (i : Int) - 1074 + t :=
    ⟨((q + 1074) / 4).toNat, ((q + 1074) % 4).toNat, by omega, by omega⟩
  have hend := end_of_fourth i (by omega)
  generalize hp : 4 * (i : Int) - 1074 = p at hq hend
  obtain ⟨n, hn⟩ : ∃ n : Nat, (53 + p) * 30103 / 100000 + 3 - 22 = startExponent m q - 22 + n := by
    refine ⟨((53 + p) * 30103 / 100000 + 3 - startExponent m q).toNat, ?_⟩
    unfold startExponent
    omega
  rw [hn] at hend
  rw [hq] at hend ⊢
  refine not_isCoarse_add (fun hcoarse => ?_) t
  exact absurd (hcoarse.mono n) (Nat.not_le.2 hend)

/-- A walk from a coarse grid to one that is not coarse finds a point on its way. -/
theorem firstGrid_spec (tie : Tie) (hm : 0 < m) (steps : Nat) :
    ∀ k : Int, IsCoarse q k → ¬ IsCoarse q (k - steps) →
      IsCoarse q (firstGrid tie m q steps k).exponent ∧ 0 < (firstGrid tie m q steps k).digits ∧
        readsBack m q (firstGrid tie m q steps k).digits (firstGrid tie m q steps k).exponent
          = true := by
  induction steps with
  | zero =>
    intro k hk hend
    rw [Int.natCast_zero, Int.sub_zero] at hend
    exact absurd hk hend
  | succ steps ih =>
    intro k hk hend
    have hnext : k - (steps + 1 : Nat) = k - 1 - steps := by omega
    rw [hnext] at hend
    rw [firstGrid]
    cases hgrid : onGrid tie m q k with
    | some d => exact ⟨hk, readsBack_of_onGrid hgrid⟩
    | none => exact ih (k - 1) (isCoarse_of_onGrid_eq_none hm hgrid) hend

theorem shortest_spec (tie : Tie) (hc : Binary.Canonical m q) :
    IsCoarse q (shortest tie m q).exponent ∧ 0 < (shortest tie m q).digits ∧
      readsBack m q (shortest tie m q).digits (shortest tie m q).exponent = true :=
  firstGrid_spec tie hc.pos 22 _ (isCoarse_startExponent hc.low hc.high) (not_isCoarse_end hc)

theorem shortest_digits_pos (tie : Tie) (hc : Binary.Canonical m q) :
    0 < (shortest tie m q).digits :=
  (shortest_spec tie hc).2.1

/-- **A shortest decimal reads back as its number.** -/
theorem readsBack_shortest (tie : Tie) (hc : Binary.Canonical m q) :
    readsBack m q (shortest tie m q).digits (shortest tie m q).exponent = true :=
  (shortest_spec tie hc).2.2

/-- **The digits of a shortest decimal fit 64 bits.** -/
theorem shortest_digits_lt (tie : Tie) (hc : Binary.Canonical m q) :
    (shortest tie m q).digits < 2 ^ 64 :=
  digits_lt_of_readsBack hc.lt (shortest_spec tie hc).1 (readsBack_shortest tie hc)

end Grid

end Decimal
end Infochart
