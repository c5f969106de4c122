import Infochart.Layout.Parts
import Infochart.Proofs.Layout.Within

/-!
# Shares of amounts

Amounts may be as large as numbers go, so bounds by powers of two say nothing of them. What a chart draws
of them are shares: quotients by something that is not smaller. These lie between zero and one however
large the amounts are, because rounding keeps the order; and a sum that is finite in the end has been so
all the way, and is not less than any of its parts.
-/

namespace Infochart.Layout

open Decimal (rounding)
open Binary64 (value?)

variable {α : Type} [Scale α] [Binary64 α] {x y : α} {v w : ℚ}

/-- Whether all of some amounts are finite. -/
def AllFinite (xs : List α) : Prop :=
  ∀ x ∈ xs, Scale.isFinite x = true

omit [Binary64 α] in
theorem AllFinite.tail {x : α} {xs : List α} (h : AllFinite (x :: xs)) : AllFinite xs :=
  fun y hy => h y (List.mem_cons_of_mem x hy)

/-! ## The greatest and the least amount -/

theorem value?_greater (hx : value? x = some v) (hy : value? y = some w) :
    value? (greater x y) = some (max v w) := by
  unfold greater
  simp only [Binary64.lt_iff hy hx, Binary64.le_iff hy hy, le_refl, if_true]
  split
  · rename_i h
    rw [max_eq_left h.le, hx]
  · rename_i h
    rw [max_eq_right (not_lt.1 h), hy]

theorem value?_lesser (hx : value? x = some v) (hy : value? y = some w) :
    value? (lesser x y) = some (min v w) := by
  unfold lesser
  simp only [Binary64.lt_iff hy hx, Binary64.le_iff hx hx, le_refl, if_true]
  split
  · rename_i h
    rw [min_eq_right h.le, hy]
  · rename_i h
    rw [min_eq_left (not_lt.1 h), hx]

/-- An operation that picks one of its arguments, on one side of both, picks one of a whole list that is
    on that side of all. -/
theorem exists_foldl {f : α → α → α} {r : ℚ → ℚ → Prop} (hrefl : ∀ u, r u u)
    (htrans : ∀ {a b c}, r a b → r b c → r a c)
    (hpick : ∀ {x y v w}, value? x = some v → value? y = some w →
      ∃ m, value? (f x y) = some m ∧ r v m ∧ r w m ∧ (m = v ∨ m = w)) {xs : List α}
    (hx : value? x = some v) (hxs : AllFinite xs) :
    ∃ m, value? (xs.foldl f x) = some m ∧ (∃ y ∈ x :: xs, value? y = some m) ∧
      ∀ y ∈ x :: xs, ∀ w, value? y = some w → r w m := by
  induction xs generalizing x v with
  | nil =>
    refine ⟨v, hx, ⟨x, List.mem_cons_self, hx⟩, fun y hy w hw => ?_⟩
    rw [List.mem_singleton.1 hy, hx] at hw
    cases hw
    exact hrefl v
  | cons y ys ih =>
    obtain ⟨w, hy⟩ := (Binary64.isFinite_iff y).1 (hxs y List.mem_cons_self)
    obtain ⟨u, hu, hvu, hwu, hone⟩ := hpick hx hy
    obtain ⟨m, hm, ⟨z, hz, hzm⟩, hall⟩ := ih hu hxs.tail
    have hum : r u m := hall (f x y) List.mem_cons_self u hu
    refine ⟨m, hm, ?_, fun z hz c hc => ?_⟩
    · rcases List.mem_cons.1 hz with rfl | hz
      · -- What is picked of the first two is one of them.
        rw [hu] at hzm
        cases hzm
        rcases hone with rfl | rfl
        · exact ⟨x, List.mem_cons_self, hx⟩
        · exact ⟨y, List.mem_cons_of_mem x List.mem_cons_self, hy⟩
      · exact ⟨z, List.mem_cons_of_mem x (List.mem_cons_of_mem y hz), hzm⟩
    · rcases List.mem_cons.1 hz with rfl | hz
      · rw [hx] at hc
        cases hc
        exact htrans hvu hum
      · rcases List.mem_cons.1 hz with rfl | hz
        · rw [hy] at hc
          cases hc
          exact htrans hwu hum
        · exact hall z (List.mem_cons_of_mem _ hz) c hc

/-- The greatest of some amounts is one of them. -/
theorem exists_greatest {xs : List α} (hxs : AllFinite xs) (hne : xs ≠ []) :
    ∃ x m, greatest xs = some x ∧ value? x = some m ∧ (∃ y ∈ xs, value? y = some m) ∧
      ∀ y ∈ xs, ∀ w, value? y = some w → w ≤ m := by
  cases xs with
  | nil => exact absurd rfl hne
  | cons x r =>
    obtain ⟨v, hx⟩ := (Binary64.isFinite_iff x).1 (hxs x List.mem_cons_self)
    obtain ⟨m, hm, hmem, hall⟩ := exists_foldl (f := greater) (r := (· ≤ ·)) le_refl le_trans
      (fun hx hy => ⟨_, value?_greater hx hy, le_max_left _ _, le_max_right _ _, max_choice _ _⟩)
      hx hxs.tail
    exact ⟨_, m, rfl, hm, hmem, hall⟩

theorem exists_least {xs : List α} (hxs : AllFinite xs) (hne : xs ≠ []) :
    ∃ x m, least xs = some x ∧ value? x = some m ∧ (∃ y ∈ xs, value? y = some m) ∧
      ∀ y ∈ xs, ∀ w, value? y = some w → m ≤ w := by
  cases xs with
  | nil => exact absurd rfl hne
  | cons x r =>
    obtain ⟨v, hx⟩ := (Binary64.isFinite_iff x).1 (hxs x List.mem_cons_self)
    obtain ⟨m, hm, hmem, hall⟩ := exists_foldl (f := lesser) (r := (· ≥ ·)) le_refl
      (fun h h' => ge_trans h h')
      (fun hx hy => ⟨_, value?_lesser hx hy, min_le_left _ _, min_le_right _ _, min_choice _ _⟩)
      hx hxs.tail
    exact ⟨_, m, rfl, hm, hmem, hall⟩

/-- **What bars are measured by is positive and not less than any amount.** -/
theorem exists_scaleMax {xs : List α} (hxs : AllFinite xs) :
    ∃ m, value? (scaleMax xs) = some m ∧ 0 < m ∧ ∀ y ∈ xs, ∀ w, value? y = some w → w ≤ m := by
  unfold scaleMax
  by_cases hne : xs = []
  · subst hne
    exact ⟨1, value?_one, one_pos, by simp⟩
  · obtain ⟨x, m, hgreatest, hm, -, hle⟩ := exists_greatest hxs hne
    rw [hgreatest]
    simp only [Binary64.lt_iff value?_zero hm]
    split
    · rename_i hpos
      exact ⟨m, hm, hpos, hle⟩
    · rename_i hnot
      exact ⟨1, value?_one, one_pos, fun y hy w hw =>
        (hle y hy w hw).trans ((not_lt.1 hnot).trans zero_le_one)⟩

/-! ## Quotients -/

theorem div_le_one_of_pos {m : ℚ} (hm : 0 < m) (h : v ≤ m) : v / m ≤ 1 :=
  (div_le_one hm).2 h

/-- The quotient by something that is not smaller. -/
theorem exists_quotient (hx : value? x = some v) (hy : value? y = some w) (hv : 0 ≤ v) (hvw : v ≤ w)
    (hw : 0 < w) : ∃ r, value? (x / y) = some r ∧ 0 ≤ r ∧ r ≤ 1 := by
  have hnonneg : 0 ≤ v / w := div_nonneg hv hw.le
  have hle : v / w ≤ 1 := div_le_one_of_pos hw hvw
  obtain ⟨hr, -⟩ := (Binary64.div hx hy hw.ne').of_abs_le (k := 0) (by decide) (by
    rw [abs_of_nonneg hnonneg, pow_zero]
    exact hle)
  refine ⟨_, hr, Decimal.rounding_nonneg hnonneg, ?_⟩
  rw [← Decimal.rounding_one]
  exact Decimal.rounding_mono hle

/-- The quotient of a negative amount is not positive, or so far below zero that it is out of range. -/
theorem quotient_of_neg (hx : value? x = some v) (hy : value? y = some w) (hv : v < 0) (hw : 0 < w) :
    (∃ r, value? (x / y) = some r ∧ r ≤ 0) ∨ (x / y < 0 ∧ ¬ 0 < x / y) := by
  have hneg : v / w < 0 := div_neg_of_neg_of_pos hv hw
  have hround := Decimal.rounding_nonpos hneg.le
  have hdiv := Binary64.div hx hy hw.ne'
  rcases le_or_gt (rounding (v / w)) (-2 ^ 1024) with hlow | hhigh
  · exact .inr (hdiv.below hlow 0 0 value?_zero)
  · have hrange : |rounding (v / w)| < 2 ^ 1024 := by
      rw [abs_of_nonpos hround]
      exact neg_lt.1 hhigh
    exact .inl ⟨_, hdiv.value hrange, hround⟩

/-- **The length of a bar is a share of the greatest one.** -/
theorem within_greater_quotient (hx : value? x = some v) (hy : value? y = some w) (hvw : v ≤ w)
    (hw : 0 < w) : Within 0 (greater (x / y) 0) := by
  rcases le_or_gt 0 v with hv | hv
  · obtain ⟨r, hr, hlow, hhigh⟩ := exists_quotient hx hy hv hvw hw
    refine within_of_value (value?_greater hr value?_zero) ?_
    rw [max_eq_left hlow, abs_of_nonneg hlow, pow_zero]
    exact hhigh
  · have hzero : Within (k := 0) (0 : α) := within_of_value value?_zero (by norm_num)
    rcases quotient_of_neg hx hy hv hw with ⟨r, hr, hle⟩ | ⟨-, hnot⟩
    · refine within_of_value (value?_greater hr value?_zero) ?_
      rw [max_eq_right hle]
      norm_num
    · unfold greater
      rw [if_neg hnot, if_pos ((Binary64.le_iff value?_zero value?_zero).2 le_rfl)]
      exact hzero

theorem within_clampUnit_quotient (hx : value? x = some v) (hy : value? y = some w) (hvw : v ≤ w)
    (hw : 0 < w) : Within 0 (clampUnit (x / y)) := by
  have hzero : Within (k := 0) (0 : α) := within_of_value value?_zero (by norm_num)
  have hone : Within (k := 0) (1 : α) := within_of_value value?_one (by norm_num)
  have hvalue : ∀ {r : ℚ}, value? (x / y) = some r → r ≤ 1 → Within 0 (clampUnit (x / y)) := by
    intro r hr hle
    unfold clampUnit
    simp only [Binary64.lt_iff hr value?_zero, Binary64.lt_iff value?_one hr]
    split
    · exact hzero
    · rename_i hnonneg
      split
      · exact hone
      · refine within_of_value hr ?_
        rw [abs_of_nonneg (not_lt.1 hnonneg), pow_zero]
        exact hle
  rcases le_or_gt 0 v with hv | hv
  · obtain ⟨r, hr, -, hhigh⟩ := exists_quotient hx hy hv hvw hw
    exact hvalue hr hhigh
  · rcases quotient_of_neg hx hy hv hw with ⟨r, hr, hle⟩ | ⟨hlt, -⟩
    · exact hvalue hr (hle.trans zero_le_one)
    · unfold clampUnit
      rw [if_pos hlt]
      exact hzero

/-! ## Ranges -/

/-- A difference that is not greater than a finite one. -/
theorem exists_difference {low high : α} {l h : ℚ} (hlow : value? low = some l)
    (hhigh : value? high = some h) (hx : value? x = some v) (hlv : l ≤ v) (hvh : v ≤ h)
    (hfin : Scale.isFinite (high - low) = true) :
    ∃ e d, value? (x - low) = some e ∧ value? (high - low) = some d ∧ 0 ≤ e ∧ e ≤ d := by
  obtain ⟨d, hd⟩ := (Binary64.isFinite_iff _).1 hfin
  obtain ⟨rfl, hrange⟩ := (Binary64.sub hhigh hlow).eq_rounding hd
  have hnonneg := Decimal.rounding_nonneg (sub_nonneg.2 hlv)
  have hle : rounding (v - l) ≤ rounding (h - l) := Decimal.rounding_mono (by linarith)
  refine ⟨_, _, (Binary64.sub hx hlow).value ?_, hd, hnonneg, hle⟩
  rw [abs_of_nonneg hnonneg]
  exact (hle.trans (le_abs_self _)).trans_lt hrange

/-- **An amount lies at a share of a finite range.** -/
theorem within_range_share {low high : α} {l h : ℚ} (hlow : value? low = some l)
    (hhigh : value? high = some h) (hx : value? x = some v) (hlv : l ≤ v) (hvh : v ≤ h)
    (hfin : Scale.isFinite (high - low) = true) (hpos : 0 < high - low) :
    Within 0 ((x - low) / (high - low)) := by
  obtain ⟨e, d, he, hd, hnonneg, hle⟩ := exists_difference hlow hhigh hx hlv hvh hfin
  rw [Binary64.lt_iff value?_zero hd] at hpos
  obtain ⟨r, hr, hr0, hr1⟩ := exists_quotient he hd hnonneg hle hpos
  refine within_of_value hr ?_
  rw [abs_of_nonneg hr0, pow_zero]
  exact hr1

/-- **All steps of an axis are finite if the last one is.** -/
theorem isFinite_step {low high ratio : α} {l h r : ℚ} (hlow : value? low = some l)
    (hhigh : value? high = some h) (hratio : value? ratio = some r) (hlh : l ≤ h) (hr0 : 0 ≤ r)
    (hr1 : r ≤ 1) (hend : Scale.isFinite (low + (high - low)) = true) :
    Scale.isFinite (low + ratio * (high - low)) = true := by
  obtain ⟨e, hend⟩ := (Binary64.isFinite_iff _).1 hend
  obtain ⟨d, hd⟩ := (Binary64.isFinite_iff _).1 (Binary64.finite_of_add (isFinite_of_value hend)).2
  obtain ⟨hkept, hdrange⟩ := Binary64.kept hd
  have hdnonneg : 0 ≤ d := by
    rw [((Binary64.sub hhigh hlow).eq_rounding hd).1]
    exact Decimal.rounding_nonneg (sub_nonneg.2 hlh)
  -- A share of the range is not longer than the range.
  have hpart0 := Decimal.rounding_nonneg (mul_nonneg hr0 hdnonneg)
  have hpart1 : rounding (r * d) ≤ d := by
    have hmono := Decimal.rounding_mono (mul_le_of_le_one_left hdnonneg hr1)
    rwa [hkept] at hmono
  have hpart : value? (ratio * (high - low)) = some (rounding (r * d)) := by
    refine (Binary64.mul hratio hd).value ?_
    rw [abs_of_nonneg hpart0]
    exact (hpart1.trans (le_abs_self d)).trans_lt hdrange
  -- So the step lies between the least amount and the last step.
  obtain ⟨-, hlast⟩ := (Binary64.add hlow hd).eq_rounding hend
  obtain ⟨hlkept, hlrange⟩ := Binary64.kept hlow
  have hge : l ≤ rounding (l + rounding (r * d)) := by
    have hmono := Decimal.rounding_mono (show l ≤ l + rounding (r * d) by linarith)
    rwa [hlkept] at hmono
  have hle : rounding (l + rounding (r * d)) ≤ rounding (l + d) :=
    Decimal.rounding_mono (by linarith)
  refine isFinite_of_value ((Binary64.add hlow hpart).value ?_)
  rw [abs_lt] at hlast hlrange ⊢
  exact ⟨hlrange.1.trans_le hge, hle.trans_lt hlast.2⟩

/-- The share of an axis at which a step lies. -/
theorem exists_ratio {i n : Nat} (h : i ≤ n) (hpos : 0 < n) (hn : n < 2 ^ 53) :
    ∃ r, value? ((i : α) / (n : α)) = some r ∧ 0 ≤ r ∧ r ≤ 1 :=
  exists_quotient (value?_natCast (h.trans_lt hn)) (value?_natCast hn) (Nat.cast_nonneg i)
    (by exact_mod_cast h) (by exact_mod_cast hpos)

/-! ## Sums -/

theorem isFinite_of_foldl {xs : List α} (h : Scale.isFinite (xs.foldl (· + ·) x) = true) :
    Scale.isFinite x = true := by
  induction xs generalizing x with
  | nil => exact h
  | cons y ys ih => exact (Binary64.finite_of_add (ih h)).1

/-- **A finite sum of positive amounts is not less than any of them.** -/
theorem exists_sum {xs : List α} (hxs : ∀ y ∈ xs, ∃ w, value? y = some w ∧ 0 < w)
    (hx : value? x = some v) (hv : 0 ≤ v)
    (hfin : Scale.isFinite (xs.foldl (· + ·) x) = true) :
    ∃ s, value? (xs.foldl (· + ·) x) = some s ∧ v ≤ s ∧
      ∀ y ∈ xs, ∀ w, value? y = some w → w ≤ s := by
  induction xs generalizing x v with
  | nil => exact ⟨v, hx, le_rfl, by simp⟩
  | cons y ys ih =>
    obtain ⟨w, hy, hw⟩ := hxs y List.mem_cons_self
    obtain ⟨u, hu⟩ := (Binary64.isFinite_iff (x + y)).1 (isFinite_of_foldl hfin)
    have hround := ((Binary64.add hx hy).eq_rounding hu).1
    have hvu : v ≤ u := by
      rw [hround, ← (Binary64.kept hx).1]
      exact Decimal.rounding_mono (by rw [(Binary64.kept hx).1]; linarith)
    have hwu : w ≤ u := by
      rw [hround, ← (Binary64.kept hy).1]
      exact Decimal.rounding_mono (by rw [(Binary64.kept hy).1]; linarith)
    obtain ⟨s, hs, hus, hys⟩ :=
      ih (fun z hz => hxs z (List.mem_cons_of_mem y hz)) hu (hv.trans hvu) hfin
    refine ⟨s, hs, hvu.trans hus, fun z hz c hc => ?_⟩
    rcases List.mem_cons.1 hz with rfl | hz
    · rw [hy] at hc
      cases hc
      exact hwu.trans hus
    · exact hys z hz c hc

end Infochart.Layout
