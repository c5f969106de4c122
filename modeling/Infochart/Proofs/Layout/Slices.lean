import Infochart.Proofs.Layout.Exact
import Infochart.Proofs.Layout.Shown

/-!
# Slices of a circle

The slices of a pie stand for the positive amounts of its dataset, one behind the other. Each takes the
share of the full turn that its amount has in the total, and the total is the sum of the same amounts, so
the slices close the circle without a gap (`turns_slices`). The legend has a row for each slice that has a
label; slices without one leave no gap in it.
-/

namespace Infochart.Layout

/-! ## What a pie divides a circle into -/

section Circle

variable {α : Type} [Scale α]

/-- The positive amounts with their places among all amounts. -/
def positives (amounts : List α) : List (α × Nat) :=
  amounts.zipIdx.filter (0 < ·.1)

/-- What is left of the amounts when those that take nothing are dropped. -/
theorem filter_pos_eq (amounts : List α) :
    amounts.filter (0 < ·) = (positives amounts).map Prod.fst := by
  calc amounts.filter (0 < ·) = (amounts.zipIdx.map Prod.fst).filter (0 < ·) := by
        rw [List.zipIdx_map_fst]
    _ = (positives amounts).map Prod.fst := List.filter_map

/-- Whether slices stand one behind the other from an angle on, and end at another. -/
def Turns : α → List (Slice α) → α → Prop
  | start, [], stop => start = stop
  | start, s :: r, stop => s.startAngle = start ∧ Turns s.endAngle r stop

end Circle

variable {α : Type} [Exact α]

/-- A pie chart of some amounts that divides the circle among the positive ones. -/
structure PieChart.Divides (chart : PieChart α) (amounts : List α) (p : Plan α) (s : Settings α) :
    Prop where
  total : chart.total = ((positives amounts).map Prod.fst).sum
  slices : chart.slices.map (fun x => (x.value, x.color)) =
    (positives amounts).map fun (v, i) => (v, p.color i)
  turns : Turns 0 chart.slices fullTurn
  sweep : ∀ x ∈ chart.slices, 0 < x.sweep ∧ x.sweep = x.value / chart.total * fullTurn
  sweeps : (chart.slices.map Slice.sweep).sum = fullTurn
  percent : ∀ x ∈ chart.slices, x.percent = x.value / chart.total * 100
  percents : (chart.slices.map Slice.percent).sum = 100
  legend : chart.legend.map LegendItem.color =
    ((positives amounts).filter (·.2 < p.labels.length)).map fun (_, i) => p.color i
  rows (k : Nat) (row : LegendItem α) : chart.legend[k]? = some row →
    row.x = (s.canvas .pie).width * (5 / 8) ∧
      row.y = (s.canvas .pie).height / 5 + (k : α) * s.pie.legendSpacing

theorem fullTurn_pos : (0 : α) < fullTurn :=
  mul_pos (Nat.cast_pos.2 Nat.two_pos) Exact.pi_pos

theorem mem_positives {amounts : List α} {v : α} {i : Nat} :
    (v, i) ∈ positives amounts ↔ amounts[i]? = some v ∧ 0 < v := by
  unfold positives
  rw [List.mem_filter, List.mem_zipIdx_iff_getElem?, decide_eq_true_iff, literal_zero]

theorem total_eq_sum (xs : List α) : total xs = xs.sum := by
  unfold total
  rw [literal_zero, List.sum_eq_foldl]

/-- In exact numbers an amount is positive or it is skipped. -/
theorem not_le_zero_iff_pos (v : α) : ¬ v ≤ @OfNat.ofNat α 0 (literal 0) ↔
    @OfNat.ofNat α 0 (literal 0) < v :=
  not_le

/-! ## Slices one behind the other -/

/-- Slices that stand one behind the other turn by the angle from their start to their stop. -/
theorem Turns.sum_sweep {start stop : α} {slices : List (Slice α)} (h : Turns start slices stop) :
    (slices.map Slice.sweep).sum = stop - start := by
  induction slices generalizing start with
  | nil =>
    rw [List.map_nil, List.sum_nil, show start = stop from h, sub_self]
  | cons x r ih =>
    obtain ⟨rfl, hrest⟩ := h
    rw [List.map_cons, List.sum_cons, ih hrest]
    exact sub_add_sub_cancel' ..

namespace PieFrame

variable [Written α] (f : PieFrame α) (p : Plan α) (t : Theme α)

@[simp] theorem sweep_slice (x : Share α) : (f.slice p t x).sweep = f.sweep x.value :=
  add_sub_cancel_left x.start (f.sweep x.value)

/-- A slice ends where the next one starts, whatever amounts are skipped between them. -/
theorem turns_slices (values : List α) (index : Nat) (start : α) :
    Turns start ((f.shares index start values).map (f.slice p t))
      (start + ((f.shares index start values).map fun x => f.sweep x.value).sum) := by
  induction values generalizing index start with
  | nil => exact (add_zero start).symm
  | cons v r ih =>
    rw [shares]
    split
    case isTrue => exact ih (index + 1) start
    case isFalse =>
      rw [List.map_cons, List.map_cons, List.sum_cons, ← add_assoc]
      exact ⟨rfl, ih (index + 1) (start + f.sweep v)⟩

omit [Written α] in
/-- The shares are the positive amounts with their places. -/
theorem map_shares_positives (values : List α) :
    (f.shares 0 0 values).map (fun x => (x.value, x.index)) = positives values :=
  map_shares f (fun v _ => not_le_zero_iff_pos v) 0 0

omit [Written α] in
theorem map_value_shares (values : List α) :
    (f.shares 0 0 values).map Share.value = (positives values).map Prod.fst := by
  rw [← f.map_shares_positives, List.map_map]
  rfl

omit [Written α] in
theorem pos_of_mem_shares {values : List α} {x : Share α} (hx : x ∈ f.shares 0 0 values) :
    0 < x.value := by
  have hmem : (x.value, x.index) ∈ positives values :=
    f.map_shares_positives values ▸ List.mem_map_of_mem hx
  exact (mem_positives.1 hmem).2

variable {f} {values : List α} (htotal : f.total = ((positives values).map Prod.fst).sum)
  (hpos : 0 < f.total)
include htotal hpos

omit [Written α] in
/-- Parts in the ratio of the amounts make up the whole that they are parts of. -/
theorem sum_shares (whole : α) :
    ((f.shares 0 0 values).map fun x => x.value / f.total * whole).sum = whole := by
  calc _ = ((f.shares 0 0 values).map fun x => x.value * (f.total⁻¹ * whole)).sum := by
        simp only [div_eq_mul_inv, mul_assoc]
    _ = f.total * (f.total⁻¹ * whole) := by
        rw [List.sum_map_mul_right, htotal, ← f.map_value_shares]
    _ = whole := mul_inv_cancel_left₀ hpos.ne' whole

theorem turns_circle : Turns 0 ((f.shares 0 0 values).map (f.slice p t)) fullTurn := by
  have hsweeps : ((f.shares 0 0 values).map fun x => f.sweep x.value).sum = fullTurn :=
    sum_shares htotal hpos fullTurn
  have hturns := f.turns_slices p t values 0 0
  rwa [zero_add, hsweeps] at hturns

end PieFrame

/-! ## Charts -/

section Charts

variable [Written α] {p : Plan α} {t : Theme α} {s : Settings α}

theorem y_pieRow (canvas : Canvas α) (s : PieSettings α) (t : Theme α) (x : Slice α) (row : Nat) :
    (pieRow canvas s t x row).y = canvas.height / 5 + (row : α) * s.legendSpacing := by
  unfold pieRow legendItem
  rw [literal_one, mul_one_div]

/-- The chart of a frame whose total is that of the positive amounts. -/
theorem divides_of_frame {f : PieFrame α} {amounts : List α}
    (htotal : f.total = ((positives amounts).map Prod.fst).sum) (hpos : 0 < f.total) :
    PieChart.Divides
      { center := (f.centerX, f.centerY)
        radius := f.radius
        total := f.total
        slices := (f.shares 0 0 amounts).map (f.slice p t)
        legend := ((f.shares 0 0 amounts).filter (·.index < p.labels.length)).zipIdx.map
          fun (x, row) => pieRow (s.canvas .pie) s.pie t (f.slice p t x) row } amounts p s where
  total := htotal
  slices := by
    rw [← f.map_shares_positives, List.map_map, List.map_map]
    rfl
  turns := f.turns_circle p t htotal hpos
  sweep := by
    refine List.forall_mem_map.2 fun x hx => ?_
    rw [f.sweep_slice]
    exact ⟨mul_pos (div_pos (f.pos_of_mem_shares hx) hpos) fullTurn_pos, rfl⟩
  sweeps := (f.turns_circle p t htotal hpos).sum_sweep.trans (sub_zero _)
  percent := List.forall_mem_map.2 fun x _ => rfl
  percents := by
    rw [List.map_map]
    exact f.sum_shares htotal hpos 100
  legend := by
    rw [map_map_zipIdx (h := fun x : Share α => p.color x.index) fun _ _ => rfl,
      ← f.map_shares_positives, List.filter_map, List.map_map]
    rfl
  rows := by
    intro k row hrow
    rw [List.getElem?_map, List.getElem?_zipIdx, Option.map_map] at hrow
    obtain ⟨x, -, rfl⟩ := Option.map_eq_some_iff.1 hrow
    rw [Function.comp_apply, Nat.zero_add]
    exact ⟨rfl, y_pieRow ..⟩

theorem exists_divides (h : (pieLayout p t s).isPlaceholder = false) :
    ∃ d chart, p.dataset? 1 = some d ∧ (pieLayout p t s).diagram = .pie chart ∧
      chart.Divides d.amounts p s := by
  unfold pieLayout at h ⊢
  simp only at h ⊢
  cases hfilled : p.filled? 1 with
  | none =>
    rw [hfilled] at h
    cases h
  | some d =>
    rw [hfilled] at h
    simp only at h ⊢
    rw [filter_pos_eq, literal_zero] at h ⊢
    split at h
    case isTrue => cases h
    case isFalse hnot =>
      rw [if_neg hnot]
      rw [Bool.or_eq_true, Bool.or_eq_true, not_or, not_or, decide_eq_true_iff, not_le] at hnot
      let f : PieFrame α :=
        { centerX := (s.canvas .pie).width * (3 / 8)
          centerY := (s.canvas .pie).height / 2
          radius := s.pie.radius
          labelRadius := s.pie.radius * s.pie.labelRadiusRatio
          total := total ((positives d.amounts).map Prod.fst) }
      refine ⟨d, _, (Option.filter_eq_some_iff.1 hfilled).1, rfl, ?_⟩
      exact divides_of_frame (f := f) (total_eq_sum _) hnot.2.1

/-- **The slices of a pie divide the full turn among the positive amounts.** -/
theorem slices_divide_circle (hkind : p.kind = .pie) (h : (ofPlan p t s).isPlaceholder = false) :
    ∃ d chart, p.dataset? 1 = some d ∧ (ofPlan p t s).diagram = .pie chart ∧
      chart.Divides d.amounts p s := by
  unfold ofPlan at h ⊢
  rw [hkind] at h ⊢
  exact exists_divides h

/-- A pie with labels and a positive amount is drawn. -/
theorem isPlaceholder_pieLayout {d : Series α} (hlabels : p.labels ≠ [])
    (hd : p.filled? 1 = some d) {v : α} (hv : v ∈ d.amounts) (hpos : 0 < v) :
    (pieLayout p t s).isPlaceholder = false := by
  have hsum : 0 < total ((positives d.amounts).map Prod.fst) := by
    rw [total_eq_sum]
    refine List.sum_pos _ (fun w hw => ?_) ?_
    · obtain ⟨q, hq, rfl⟩ := List.mem_map.1 hw
      exact (mem_positives.1 hq).2
    · obtain ⟨i, hi⟩ := List.mem_iff_getElem?.1 hv
      exact List.ne_nil_of_mem (List.mem_map_of_mem (mem_positives.2 ⟨hi, hpos⟩))
  unfold pieLayout
  simp only
  rw [hd]
  simp only
  rw [filter_pos_eq, literal_zero, if_neg (by simp [hlabels, hsum, Exact.isFinite_eq])]
  rfl

end Charts

/-! ## Four amounts -/

/-- A pie of some amounts, with labels for the first three. -/
def Plan.circle {α : Type} (amounts : List α) : Plan α where
  kind := .pie
  title := ""
  orientation := .horizontal
  colors := []
  labels := ["1", "2", "3"]
  seriesLabels := []
  scaleLabels := []
  series := [⟨1, amounts.map fun v => ⟨v, ""⟩⟩]

/-- Two of four amounts take nothing, and the last one has no label. -/
theorem slices_divide_circle_of_four :
    let _ : Written ℝ := Written.silent ℝ
    (ofPlan (Plan.circle [3, -1, 0, 1] : Plan ℝ) Theme.classic Settings.standard).isPlaceholder = false ∧
    ∃ chart, (ofPlan (Plan.circle [3, -1, 0, 1] : Plan ℝ) Theme.classic
      Settings.standard).diagram = .pie chart ∧
      chart.Divides [3, -1, 0, 1] (Plan.circle [3, -1, 0, 1]) Settings.standard := by
  let _ : Written ℝ := Written.silent ℝ
  have hdrawn : (ofPlan (Plan.circle [3, -1, 0, 1] : Plan ℝ) Theme.classic
      Settings.standard).isPlaceholder = false :=
    isPlaceholder_pieLayout (List.cons_ne_nil _ _) rfl List.mem_cons_self three_pos
  obtain ⟨d, chart, hd, hdiagram, hdivides⟩ := slices_divide_circle rfl hdrawn
  obtain rfl := Option.some.inj hd
  exact ⟨hdrawn, chart, hdiagram, hdivides⟩

end Infochart.Layout
