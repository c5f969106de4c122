import Infochart.Proofs.Layout.Exact
import Infochart.Proofs.Layout.Shown

/-!
# Points of lines

The points of a line stand at equal distances over the labels, and their heights are measured between the
least and the greatest amount of all series that are drawn. As every amount that is drawn lies between the
two, so does every point between the edges of the plot, and of two points the one with the greater amount
is the higher one (`yAt_le_iff`). `LineChart.Plots` says so of a chart as a whole.
-/

namespace Infochart.Layout

open Chart (Kind Orientation)

/-! ## Where the points of a chart are -/

section Places

variable {α : Type} [Exact α]

/-- The points of all lines, one line behind the other. -/
def LineChart.points (chart : LineChart α) : List (LinePoint α) :=
  chart.series.flatMap LineSeries.points

/-- Whether a point is in an area, its edges included. -/
structure LinePoint.In (q : LinePoint α) (a : Area α) : Prop where
  left : a.left ≤ q.x
  right : q.x ≤ a.right
  top : a.top ≤ q.y
  bottom : q.y ≤ a.bottom

/-- Whether the points of a line divide the width of a plot among a number of labels: from edge to edge in
    equal strides, or in the middle if there is one label only. -/
structure LineSeries.Divides (l : LineSeries α) (plot : Area α) (count : Nat) : Prop where
  start : 1 < count → ∀ q, l.points[0]? = some q → q.x = plot.left
  stop : 1 < count → ∀ q, l.points[count - 1]? = some q → q.x = plot.right
  single : count = 1 → ∀ q ∈ l.points, q.x = plot.left + plot.width / 2
  strides : ∃ stride : α, 0 < stride ∧ ∀ i q q', l.points[i]? = some q → l.points[i + 1]? = some q' →
    q'.x = q.x + stride
  grows : (l.points.map LinePoint.x).Pairwise (· < ·)

structure LineChart.Plots (chart : LineChart α) (count : Nat) : Prop where
  inside : ∀ q ∈ chart.points, q.In chart.plot
  divides : ∀ l ∈ chart.series, l.Divides chart.plot count
  between : ∀ q ∈ chart.points, chart.minValue ≤ q.value ∧ q.value ≤ chart.maxValue
  order : ∀ q ∈ chart.points, ∀ q' ∈ chart.points, q.value ≤ q'.value ↔ q'.y ≤ q.y
  level : ∀ q ∈ chart.points, ∀ q' ∈ chart.points, q.value = q'.value → q.y = q'.y
  bottom : chart.minValue < chart.maxValue → ∀ q ∈ chart.points, q.value = chart.minValue →
    q.y = chart.plot.bottom
  top : chart.minValue < chart.maxValue → ∀ q ∈ chart.points, q.value = chart.maxValue →
    q.y = chart.plot.top
  middle : ¬ chart.minValue < chart.maxValue → ∀ q ∈ chart.points,
    q.y = chart.plot.top + chart.plot.height / 2

end Places

namespace LineFrame

variable {α : Type} [Exact α] (f : LineFrame α)

/-! ## Along the labels -/

/-- The distance from one label to the next. -/
def stride : α :=
  f.plot.width / ((f.categories - 1 : Nat) : α)

variable {f}

theorem xAt_eq (h : 1 < f.categories) (i : Nat) : f.xAt i = f.plot.left + i * f.stride := by
  unfold xAt stride
  rw [if_pos h, div_mul_eq_mul_div, mul_div_assoc]

theorem xAt_of_single (h : f.categories = 1) (i : Nat) : f.xAt i = f.plot.left + f.plot.width / 2 := by
  unfold xAt
  rw [if_neg (by omega)]

theorem stride_pos (hwidth : 0 < f.plot.width) (h : 1 < f.categories) : 0 < f.stride :=
  div_pos hwidth (Nat.cast_pos.2 (Nat.sub_pos_of_lt h))

/-- All strides together are the width of the plot. -/
theorem mul_stride (h : 1 < f.categories) : ((f.categories - 1 : Nat) : α) * f.stride = f.plot.width :=
  mul_div_cancel₀ _ (Nat.cast_ne_zero.2 (Nat.sub_pos_of_lt h).ne')

theorem xAt_bounds (hwidth : 0 < f.plot.width) {i : Nat} (hi : i < f.categories) :
    f.plot.left ≤ f.xAt i ∧ f.xAt i ≤ f.plot.right := by
  unfold Area.right
  rcases Nat.lt_or_ge 1 f.categories with h | h
  · have hpos := stride_pos hwidth h
    have hle : (i : α) ≤ ((f.categories - 1 : Nat) : α) := Nat.cast_le.2 (Nat.le_sub_one_of_lt hi)
    rw [xAt_eq h]
    constructor
    · exact le_add_of_nonneg_right (mul_nonneg (Nat.cast_nonneg i) hpos.le)
    · rw [← mul_stride h]
      gcongr
  · rw [xAt_of_single (by omega)]
    constructor
    · linarith
    · linarith

theorem xAt_strictMono (hwidth : 0 < f.plot.width) {i j : Nat} (hij : i < j) (hj : j < f.categories) :
    f.xAt i < f.xAt j := by
  have h : 1 < f.categories := by omega
  have hpos := stride_pos hwidth h
  rw [xAt_eq h, xAt_eq h]
  gcongr

/-! ## Between the least and the greatest amount -/

/-- Whether an amount is on the scale of a chart. -/
def Covers (f : LineFrame α) (v : α) : Prop :=
  f.minValue ≤ v ∧ v ≤ f.maxValue

theorem shareOf_eq (h : f.minValue < f.maxValue) (v : α) :
    f.shareOf v = (v - f.minValue) / (f.maxValue - f.minValue) := by
  unfold shareOf
  simp only
  rw [literal_zero, if_pos (sub_pos.2 h)]

theorem shareOf_of_flat (h : ¬ f.minValue < f.maxValue) (v : α) : f.shareOf v = 1 / 2 := by
  unfold shareOf
  simp only
  rw [literal_zero, if_neg (mt sub_pos.1 h), half_eq]

theorem shareOf_bounds {v : α} (hv : f.Covers v) : 0 ≤ f.shareOf v ∧ f.shareOf v ≤ 1 := by
  by_cases h : f.minValue < f.maxValue
  · rw [shareOf_eq h]
    constructor
    · exact div_nonneg (sub_nonneg.2 hv.1) (sub_pos.2 h).le
    · exact (div_le_one (sub_pos.2 h)).2 (sub_le_sub_right hv.2 _)
  · rw [shareOf_of_flat h]
    norm_num

/-- **The higher of two amounts on the scale has the greater share.** On a flat scale there is only one
    amount. -/
theorem shareOf_le_iff {v w : α} (hv : f.Covers v) (hw : f.Covers w) :
    f.shareOf v ≤ f.shareOf w ↔ v ≤ w := by
  by_cases h : f.minValue < f.maxValue
  · rw [shareOf_eq h, shareOf_eq h, div_le_div_iff_of_pos_right (sub_pos.2 h), sub_le_sub_iff_right]
  · have hflat : f.maxValue ≤ f.minValue := not_lt.1 h
    rw [shareOf_of_flat h, shareOf_of_flat h]
    exact iff_of_true le_rfl (hv.2.trans (hflat.trans hw.1))

theorem yAt_bounds (hheight : 0 < f.plot.height) {v : α} (hv : f.Covers v) :
    f.plot.top ≤ f.yAt v ∧ f.yAt v ≤ f.plot.bottom := by
  obtain ⟨hlow, hhigh⟩ := shareOf_bounds hv
  have hle : f.shareOf v * f.plot.height ≤ f.plot.height := mul_le_of_le_one_left hheight.le hhigh
  unfold yAt Area.bottom
  constructor
  · linarith
  · exact sub_le_self _ (mul_nonneg hlow hheight.le)

theorem yAt_le_iff (hheight : 0 < f.plot.height) {v w : α} (hv : f.Covers v) (hw : f.Covers w) :
    f.yAt w ≤ f.yAt v ↔ v ≤ w := by
  unfold yAt
  rw [sub_le_sub_iff_left, mul_le_mul_iff_left₀ hheight, shareOf_le_iff hv hw]

theorem yAt_minValue (h : f.minValue < f.maxValue) : f.yAt f.minValue = f.plot.bottom := by
  unfold yAt
  rw [shareOf_eq h, sub_self, zero_div, zero_mul, sub_zero]

theorem yAt_maxValue (h : f.minValue < f.maxValue) : f.yAt f.maxValue = f.plot.top := by
  unfold yAt Area.bottom
  rw [shareOf_eq h, div_self (sub_pos.2 h).ne', one_mul, add_sub_cancel_right]

theorem yAt_of_flat (h : ¬ f.minValue < f.maxValue) (v : α) :
    f.yAt v = f.plot.top + f.plot.height / 2 := by
  unfold yAt Area.bottom
  rw [shareOf_of_flat h]
  ring

/-! ## The points of a series -/

section Series

variable (t : Theme α) (name color : String) (d : Series α)

/-- A point stands for the entry at its place, and that has a label. -/
theorem exists_entry {i : Nat} {q : LinePoint α}
    (h : (f.series t name color d).points[i]? = some q) :
    i < f.categories ∧ ∃ e ∈ d.entries, q = f.point t e i := by
  unfold series at h
  rw [List.getElem?_map, List.getElem?_zipIdx, Option.map_map] at h
  obtain ⟨e, he, rfl⟩ := Option.map_eq_some_iff.1 h
  rw [List.getElem?_take, Option.ite_none_right_eq_some] at he
  refine ⟨he.1, e, List.mem_of_getElem? he.2, ?_⟩
  rw [Function.comp_apply, Nat.zero_add]

theorem exists_entry_of_mem {q : LinePoint α} (h : q ∈ (f.series t name color d).points) :
    ∃ i < f.categories, ∃ e ∈ d.entries, q = f.point t e i := by
  obtain ⟨i, hi⟩ := List.mem_iff_getElem?.1 h
  exact ⟨i, exists_entry t name color d hi⟩

theorem x_of_getElem? {i : Nat} {q : LinePoint α}
    (h : (f.series t name color d).points[i]? = some q) : i < f.categories ∧ q.x = f.xAt i := by
  obtain ⟨hi, e, -, rfl⟩ := exists_entry t name color d h
  exact ⟨hi, rfl⟩

theorem divides_series (hwidth : 0 < f.plot.width) :
    (f.series t name color d).Divides f.plot f.categories where
  start := by
    intro h q hq
    rw [(x_of_getElem? t name color d hq).2, xAt_eq h, Nat.cast_zero, zero_mul, add_zero]
  stop := by
    intro h q hq
    rw [(x_of_getElem? t name color d hq).2, xAt_eq h, mul_stride h]
    rfl
  single := by
    intro h q hq
    obtain ⟨i, -, e, -, rfl⟩ := exists_entry_of_mem t name color d hq
    exact xAt_of_single h i
  strides := by
    by_cases h : 1 < f.categories
    · refine ⟨f.stride, stride_pos hwidth h, fun i q q' hq hq' => ?_⟩
      rw [(x_of_getElem? t name color d hq).2, (x_of_getElem? t name color d hq').2, xAt_eq h, xAt_eq h]
      push_cast
      ring
    · -- With one label there is no second point.
      refine ⟨1, one_pos, fun i q q' _ hq' => ?_⟩
      have hlt := (x_of_getElem? t name color d hq').1
      omega
  grows := by
    rw [List.pairwise_map, List.pairwise_iff_getElem]
    intro i j hi hj hij
    obtain ⟨-, hx⟩ := x_of_getElem? t name color d (List.getElem?_eq_getElem hi)
    obtain ⟨hlt, hx'⟩ := x_of_getElem? t name color d (List.getElem?_eq_getElem hj)
    rw [hx, hx']
    exact xAt_strictMono hwidth hij hlt

end Series

end LineFrame

/-! ## Charts -/

section Charts

variable {α : Type} [Exact α] {p : Plan α} {t : Theme α} {s : Settings α}

/-- The scale of a chart covers the amounts of all series that it draws, with a label or without. -/
theorem LineFrame.covers_of {d : Series α} (hd : d ∈ p.datasets 5) {e : Entry α} (he : e ∈ d.entries) :
    (LineFrame.of p s).Covers e.amount := by
  have hmem : e.amount ∈ (p.datasets 5).flatMap Series.amounts :=
    List.mem_flatMap.2 ⟨d, hd, List.mem_map_of_mem he⟩
  exact ⟨least_le hmem, le_greatest hmem⟩

variable [Written α]

theorem exists_plots (h : (lineLayout p t s).isPlaceholder = false) :
    ∃ chart, (lineLayout p t s).diagram = .line chart ∧
      chart.plot = plotArea (s.canvas .line) s.margin ∧ chart.Plots p.labels.length := by
  let f := LineFrame.of p s
  have hwidth : 0 < f.plot.width := across_plotArea_pos _ _ .horizontal
  have hheight : 0 < f.plot.height := across_plotArea_pos _ _ .vertical
  unfold lineLayout at h ⊢
  simp only at h ⊢
  rw [diagram_of_drawn h]
  refine ⟨_, rfl, rfl, ?_⟩
  have hpoint : ∀ q ∈ ((p.datasets 5).zipIdx.map fun entry =>
      f.series t (p.seriesName entry.2) (p.color entry.2) entry.1).flatMap LineSeries.points,
      ∃ i < f.categories, ∃ e, f.Covers e.amount ∧ q = f.point t e i := by
    simp only [List.forall_mem_flatMap, List.forall_mem_map]
    rintro ⟨d, j⟩ hd q hq
    obtain ⟨i, hi, e, he, rfl⟩ := LineFrame.exists_entry_of_mem t _ _ d hq
    exact ⟨i, hi, e, LineFrame.covers_of (List.fst_mem_of_mem_zipIdx hd) he, rfl⟩
  exact {
    inside := by
      intro q hq
      obtain ⟨i, hi, e, he, rfl⟩ := hpoint q hq
      obtain ⟨hleft, hright⟩ := LineFrame.xAt_bounds hwidth hi
      obtain ⟨htop, hbottom⟩ := LineFrame.yAt_bounds hheight he
      exact ⟨hleft, hright, htop, hbottom⟩
    divides := by
      refine List.forall_mem_map.2 fun entry _ => ?_
      exact LineFrame.divides_series t _ _ entry.1 hwidth
    between := by
      intro q hq
      obtain ⟨i, -, e, he, rfl⟩ := hpoint q hq
      exact he
    order := by
      intro q hq q' hq'
      obtain ⟨i, -, e, he, rfl⟩ := hpoint q hq
      obtain ⟨i', -, e', he', rfl⟩ := hpoint q' hq'
      exact (LineFrame.yAt_le_iff hheight he he').symm
    level := by
      intro q hq q' hq' heq
      obtain ⟨i, -, e, -, rfl⟩ := hpoint q hq
      obtain ⟨i', -, e', -, rfl⟩ := hpoint q' hq'
      exact congrArg f.yAt heq
    bottom := by
      intro hlt q hq heq
      obtain ⟨i, -, e, -, rfl⟩ := hpoint q hq
      exact (congrArg f.yAt heq).trans (LineFrame.yAt_minValue hlt)
    top := by
      intro hlt q hq heq
      obtain ⟨i, -, e, -, rfl⟩ := hpoint q hq
      exact (congrArg f.yAt heq).trans (LineFrame.yAt_maxValue hlt)
    middle := by
      intro hflat q hq
      obtain ⟨i, -, e, -, rfl⟩ := hpoint q hq
      exact LineFrame.yAt_of_flat hflat e.amount }

/-- **The points of a line chart lie in the plot, in the order of their labels and of their amounts.** -/
theorem points_in_plot (hkind : p.kind = .line) (h : (ofPlan p t s).isPlaceholder = false) :
    (ofPlan p t s).diagram.Shows .line (p.content .line) ∧
      ∃ chart, (ofPlan p t s).diagram = .line chart ∧
        chart.plot = plotArea (s.canvas .line) s.margin ∧ chart.Plots p.labels.length := by
  unfold ofPlan at h ⊢
  rw [hkind] at h ⊢
  exact ⟨(outcome_lineLayout p t s).shows h, exists_plots h⟩

end Charts

/-! ## Two lines -/

/-- Series of amounts, one behind the other, with three labels. -/
def Plan.graph {α : Type} (kind : Kind) (orientation : Orientation) (amounts : List (List α)) : Plan α where
  kind := kind
  title := ""
  orientation := orientation
  colors := []
  labels := ["1", "2", "3"]
  seriesLabels := []
  scaleLabels := []
  series := amounts.zipIdx.map fun (values, i) => ⟨i + 1, values.map fun v => ⟨v, ""⟩⟩

/-- One line is shorter than the labels and the other longer, and one amount is negative. -/
theorem points_in_plot_of_two :
    let _ : Written ℝ := Written.silent ℝ
    let p : Plan ℝ := Plan.graph .line .vertical [[3, -1], [2, 2, 5, 7]]
    p.kind = .line ∧ (ofPlan p Theme.classic Settings.standard).isPlaceholder = false ∧
      ∃ chart, (ofPlan p Theme.classic Settings.standard).diagram = .line chart ∧ chart.Plots 3 := by
  intro _ p
  have hdrawn : (ofPlan p Theme.classic Settings.standard).isPlaceholder = false := rfl
  obtain ⟨-, chart, hdiagram, -, hplots⟩ := points_in_plot rfl hdrawn
  exact ⟨rfl, hdrawn, chart, hdiagram, hplots⟩

end Infochart.Layout
