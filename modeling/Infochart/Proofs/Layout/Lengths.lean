import Infochart.Proofs.Layout.Exact
import Infochart.Proofs.Layout.Shown
import Infochart.Proofs.Config.CanvasOrder

/-!
# Lengths that start at zero

Bars, the points of a radar chart and the bars of a comparison are measured by the greatest amount of all
series that are drawn, or by one where no amount is positive. So a mark never exceeds its extent, and what
is not positive has no length at all. `FromZero` says this of marks of any kind, and it follows from one
fact about them: each is the share that its amount has of a maximum that it does not exceed.
-/

namespace Infochart

/-! ## A distance that is built in -/

namespace Config

/-- No settings file changes the measures of comparison charts. -/
theorem comparison_ofText? {text : String} {c : Config} (h : ofText? text = some c) :
    c.settings.comparison = Layout.Settings.standard.comparison := by
  obtain ⟨o, -, rfl⟩ := Option.map_eq_some_iff.1 h
  show (o.canvas.foldl applyCanvas Layout.Settings.standard).comparison = _
  rw [foldl_applyCanvas]

end Config

namespace Layout

open Chart (Kind Orientation)

/-! ## Marks and their lengths -/

section Marks

variable {α : Type} [Exact α]

/-- Amounts with the lengths of their marks, of which the greatest amount has the whole extent. -/
structure FromZero (maximum extent : α) (marks : List (α × α)) : Prop where
  positive : 0 < maximum
  dominates : ∀ q ∈ marks, q.1 ≤ maximum
  length : ∀ q ∈ marks, q.2 = max 0 q.1 / maximum * extent
  bounds : ∀ q ∈ marks, 0 ≤ q.2 ∧ q.2 ≤ extent
  mono : ∀ q ∈ marks, ∀ q' ∈ marks, q.1 ≤ q'.1 → q.2 ≤ q'.2
  strict : ∀ q ∈ marks, ∀ q' ∈ marks, 0 < extent → 0 ≤ q.1 → q.1 < q'.1 → q.2 < q'.2
  ratio : ∀ q ∈ marks, ∀ q' ∈ marks, 0 < q.1 → 0 < q'.1 → q.2 * q'.1 = q'.2 * q.1

/-- How far a bar extends along the axis of values. -/
def Bar.reach (b : Bar α) : Orientation → α
  | .vertical => b.height
  | .horizontal => b.width

/-- Whether a bar starts at the axis of categories and ends within the plot. -/
def Bar.Stands (b : Bar α) (plot : Area α) : Orientation → Prop
  | .vertical => plot.top ≤ b.y ∧ b.y + b.height = plot.bottom
  | .horizontal => b.x = plot.left ∧ b.x + b.width ≤ plot.right

structure BarChart.IsZeroBased (chart : BarChart α) : Prop where
  lengths : FromZero chart.maxValue (chart.plot.across chart.orientation)
    (chart.bars.map fun b => (b.value, b.reach chart.orientation))
  contained : ∀ b ∈ chart.bars, b.Stands chart.plot chart.orientation

/-- Whether a point is at its share of the way from the center to the tip of a spoke. -/
def RadarPoint.On (q : RadarPoint α) (center : α × α) (spoke : Segment α) : Prop :=
  q.x = center.1 + q.ratio * (spoke.x₂ - center.1) ∧ q.y = center.2 + q.ratio * (spoke.y₂ - center.2)

structure RadarChart.IsZeroBased (chart : RadarChart α) : Prop where
  lengths : FromZero chart.maxValue 1
    (chart.series.flatMap fun l => l.points.map fun q => (q.value, q.ratio))
  points : ∀ l ∈ chart.series, List.Forall₂ (fun q a => q.On chart.center a.spoke) l.points chart.axes

/-- The greatest length of a bar on one side of the divider, which keeps a distance from the edge. -/
def Settings.halfExtent (s : Settings α) : α :=
  max ((plotArea (s.canvas .comparison) s.margin).width / 2 - s.comparison.centerGap) 0

structure ComparisonChart.IsZeroBased (chart : ComparisonChart α) (s : Settings α) : Prop where
  lengths : FromZero chart.maxValue s.halfExtent
    (chart.groups.flatMap fun g => [(g.left.value, g.left.width), (g.right.value, g.right.width)])
  left : ∀ g ∈ chart.groups, (plotArea (s.canvas .comparison) s.margin).left ≤ g.left.x ∧
    g.left.x + g.left.width = chart.divider.x₁
  right : ∀ g ∈ chart.groups, g.right.x = chart.divider.x₁ ∧
    g.right.x + g.right.width ≤ (plotArea (s.canvas .comparison) s.margin).right

/-- Whether a diagram is one of those that measure from zero, and measures so. -/
def Diagram.IsZeroBased (d : Diagram α) (s : Settings α) : Prop :=
  match d with
  | .bar chart => chart.IsZeroBased
  | .radar chart => chart.IsZeroBased
  | .comparison chart => chart.IsZeroBased s
  | _ => False

/-! ## Shares of a maximum -/

variable {maximum extent : α}

theorem share_eq (hmax : 0 < maximum) (value : α) :
    max (value / maximum) 0 = max 0 value / maximum := by
  calc max (value / maximum) 0 = max (value / maximum) (0 / maximum) := by rw [zero_div]
    _ = max value 0 / maximum := max_div_div_right hmax.le value 0
    _ = max 0 value / maximum := by rw [max_comm]

/-- Shares of a maximum that nothing exceeds are lengths that start at zero. -/
theorem FromZero.of_shares (hmax : 0 < maximum) (hextent : 0 ≤ extent) {marks : List (α × α)}
    (h : ∀ q ∈ marks, q.1 ≤ maximum ∧ q.2 = max (q.1 / maximum) 0 * extent) :
    FromZero maximum extent marks := by
  have hlength : ∀ q ∈ marks, q.2 = max 0 q.1 / maximum * extent := by
    intro q hq
    rw [(h q hq).2, share_eq hmax]
  exact {
    positive := hmax
    dominates := fun q hq => (h q hq).1
    length := hlength
    bounds := by
      intro q hq
      have hshare : max 0 q.1 / maximum ≤ 1 := (div_le_one hmax).2 (max_le hmax.le (h q hq).1)
      rw [hlength q hq]
      constructor
      · positivity
      · exact mul_le_of_le_one_left hextent hshare
    mono := by
      intro q hq q' hq' hle
      rw [hlength q hq, hlength q' hq']
      gcongr
    strict := by
      intro q hq q' hq' hpos hnonneg hlt
      rw [hlength q hq, hlength q' hq', max_eq_right hnonneg, max_eq_right (hnonneg.trans hlt.le)]
      gcongr
    ratio := by
      intro q hq q' hq' hpos hpos'
      rw [hlength q hq, hlength q' hq', max_eq_right hpos.le, max_eq_right hpos'.le]
      ring }

/-- Within the maximum there is nothing to cut from above. -/
theorem clampUnit_of_le_one {x : α} (h : x ≤ 1) : clampUnit x = max x 0 := by
  unfold clampUnit
  rw [literal_zero, literal_one, if_neg (not_lt.2 h)]
  split
  case isTrue hneg => exact (max_eq_right hneg.le).symm
  case isFalse hnonneg => exact (max_eq_left (not_lt.1 hnonneg)).symm

end Marks

/-! ## Bars -/

section Charts

variable {α : Type} [Exact α] [Written α] {p : Plan α} {t : Theme α} {s : Settings α}

namespace BarFrame

variable (f : BarFrame α) (t : Theme α) (color : String) (i j : Nat) {value : α}

@[simp] theorem reach_bar (value : α) : (f.bar t color i j value).reach f.orientation = f.length value := by
  unfold bar Bar.reach
  cases f.orientation <;> rfl

/-- A bar that is not longer than the plot stands in it. -/
theorem stands_bar (h : f.length value ≤ f.plot.across f.orientation) :
    (f.bar t color i j value).Stands f.plot f.orientation := by
  unfold bar Bar.Stands
  cases ho : f.orientation with
  | vertical =>
    rw [ho] at h
    have hle : f.length value ≤ f.plot.height := h
    constructor
    · show f.plot.top ≤ f.plot.top + f.plot.height - f.length value
      linarith
    · exact sub_add_cancel _ _
  | horizontal =>
    rw [ho] at h
    exact ⟨rfl, add_le_add_right h f.plot.left⟩

end BarFrame

theorem fromZero_seriesBars (p : Plan α) (t : Theme α) (s : Settings α) :
    let f := BarFrame.of p s
    FromZero f.maxValue (f.plot.across f.orientation)
      (((p.datasets 5).zipIdx.flatMap fun (d, i) =>
        f.seriesBars t (p.color i) i p.labels.length d.amounts).map fun b =>
          (b.value, b.reach f.orientation)) := by
  intro f
  have hmax : 0 < f.maxValue := scaleMax_pos _
  have hextent : 0 < f.plot.across f.orientation := across_plotArea_pos _ _ _
  refine .of_shares hmax hextent.le (List.forall_mem_map.2 fun b hb => ?_)
  obtain ⟨i, j, d, e, hd, he, rfl⟩ := mem_seriesBars t f hb
  rw [value_bar, f.reach_bar]
  constructor
  · refine le_scaleMax (List.mem_flatMap.2 ⟨d, List.mem_of_getElem? hd, ?_⟩)
    exact List.mem_map_of_mem (List.mem_of_getElem? he)
  · unfold BarFrame.length
    rw [greater_eq_max, literal_zero]

theorem isZeroBased_barLayout (h : (barLayout p t s).isPlaceholder = false) :
    (barLayout p t s).diagram.IsZeroBased s := by
  let f := BarFrame.of p s
  unfold barLayout at h ⊢
  simp only at h ⊢
  rw [diagram_of_drawn h]
  have hlengths := fromZero_seriesBars p t s
  refine ⟨hlengths, fun b hb => ?_⟩
  have hbound := (hlengths.bounds _ (List.mem_map_of_mem hb)).2
  obtain ⟨i, j, d, e, -, -, rfl⟩ := mem_seriesBars t f hb
  rw [f.reach_bar] at hbound
  exact f.stands_bar t _ i j hbound

/-! ## Radar charts -/

namespace RadarFrame

variable (f : RadarFrame α) (t : Theme α) (color : String) (d : Series α) (j : Nat)

omit [Written α] in
theorem on_spoke (s : RadarSettings α) (text : String) :
    (f.point t color d j).On (f.centerX, f.centerY) (f.axis s t text j).spoke := by
  unfold RadarPoint.On point axis
  constructor
  · simp only
    ring
  · simp only
    ring

omit [Written α] in
/-- The points of a series lie on the axes, one on each. -/
theorem forall₂_on_spoke (s : RadarSettings α) (name : String) {labels : List String}
    (hcount : f.axisCount = labels.length) :
    List.Forall₂ (fun q a => q.On (f.centerX, f.centerY) a.spoke) (f.series t name color d).points
      (labels.zipIdx.map fun (text, i) => f.axis s t text i) := by
  unfold series
  rw [hcount, List.range_eq_range', ← List.zipIdx_map_snd, List.map_map, List.forall₂_map_left_iff,
    List.forall₂_map_right_iff, List.forall₂_same]
  rintro ⟨text, i⟩ -
  exact f.on_spoke t color d i s text

omit [Written α] in
/-- A point of a series whose amounts are all measured is at the share of its amount. -/
theorem ratio_point (hmax : 0 < f.maxValue)
    (hle : (d.entries[j]?.map Entry.amount).getD 0 ≤ f.maxValue) :
    (f.point t color d j).value ≤ f.maxValue ∧
      (f.point t color d j).ratio = max ((f.point t color d j).value / f.maxValue) 0 * 1 := by
  unfold point
  simp only
  rw [literal_zero]
  refine ⟨hle, ?_⟩
  rw [mul_one]
  exact clampUnit_of_le_one ((div_le_one hmax).2 hle)

end RadarFrame

theorem isZeroBased_radarLayout (h : (radarLayout p t s).isPlaceholder = false) :
    (radarLayout p t s).diagram.IsZeroBased s := by
  let f := RadarFrame.of p s
  have hmax : 0 < f.maxValue := scaleMax_pos _
  unfold radarLayout at h ⊢
  simp only at h ⊢
  rw [diagram_of_drawn h]
  constructor
  · refine .of_shares hmax zero_le_one ?_
    simp only [List.forall_mem_flatMap, List.forall_mem_map]
    rintro ⟨d, i⟩ hd q hq
    obtain ⟨j, -, rfl⟩ := List.mem_map.1 hq
    refine f.ratio_point t (p.color i) d j hmax (entry_le_scaleMax (fun x hx => ?_) j)
    exact List.mem_flatMap.2 ⟨d, List.fst_mem_of_mem_zipIdx hd, hx⟩
  · intro l hl
    obtain ⟨⟨d, i⟩, -, rfl⟩ := List.mem_map.1 hl
    exact f.forall₂_on_spoke t _ d s.radar _ rfl

/-! ## Comparisons -/

namespace ComparisonFrame

variable (left right : Series α) (count : Nat) (s : Settings α)

omit [Written α] in
theorem halfExtent_of : (ComparisonFrame.of left right count s).halfExtent = s.halfExtent := by
  unfold ComparisonFrame.of Settings.halfExtent
  simp only
  rw [greater_eq_max, literal_zero]

omit [Written α] in
/-- A bar that keeps a distance from the edge of the plot stays in its half. -/
theorem halfExtent_le (hgap : 0 ≤ s.comparison.centerGap) :
    s.halfExtent ≤ (plotArea (s.canvas .comparison) s.margin).width / 2 := by
  have hwidth : 0 < (plotArea (s.canvas .comparison) s.margin).width :=
    across_plotArea_pos _ _ .horizontal
  refine max_le ?_ (half_pos hwidth).le
  exact sub_le_self _ hgap

variable {left right} {d : Series α} (hd : d = left ∨ d = right) (p : Plan α) (t : Theme α)
  (side j : Nat)
include hd

omit [Written α] in
/-- A bar of one of the two series is at the share of its amount. -/
theorem width_bar :
    let f := ComparisonFrame.of left right count s
    let b := f.bar p t s.comparison d side j
    b.value ≤ f.maxValue ∧ b.width = max (b.value / f.maxValue) 0 * s.halfExtent := by
  intro f b
  constructor
  · have hle : (d.entries[j]?.map Entry.amount).getD 0 ≤ f.maxValue := by
      refine entry_le_scaleMax (fun x hx => List.mem_append.2 ?_) j
      rcases hd with rfl | rfl
      · exact .inl hx
      · exact .inr hx
    rwa [← literal_zero] at hle
  · show greater (b.value / f.maxValue) _ * f.halfExtent = _
    rw [greater_eq_max, literal_zero, halfExtent_of]

omit [Written α] hd in
/-- The first bar ends at the divider. -/
theorem bar_left_of_divider (hgap : 0 ≤ s.comparison.centerGap) :
    let f := ComparisonFrame.of left right count s
    let b := f.bar p t s.comparison d 0 j
    b.width ≤ s.halfExtent → f.plot.left ≤ b.x ∧ b.x + b.width = f.centerX := by
  intro f b hle
  have hhalf : b.width ≤ f.plot.width / 2 := hle.trans (halfExtent_le s hgap)
  constructor
  · show f.plot.left ≤ f.plot.left + f.plot.width / 2 - b.width
    linarith
  · exact sub_add_cancel f.centerX b.width

omit [Written α] hd in
/-- The second bar starts at the divider. -/
theorem bar_right_of_divider (hgap : 0 ≤ s.comparison.centerGap) :
    let f := ComparisonFrame.of left right count s
    let b := f.bar p t s.comparison d 1 j
    b.width ≤ s.halfExtent → b.x = f.centerX ∧ b.x + b.width ≤ f.plot.right := by
  intro f b hle
  have hhalf : b.width ≤ f.plot.width / 2 := hle.trans (halfExtent_le s hgap)
  refine ⟨rfl, ?_⟩
  show f.plot.left + f.plot.width / 2 + b.width ≤ f.plot.left + f.plot.width
  linarith

end ComparisonFrame

omit [Written α] in
theorem isZeroBased_comparisonLayout (hgap : 0 ≤ s.comparison.centerGap)
    (h : (comparisonLayout p t s).isPlaceholder = false) :
    (comparisonLayout p t s).diagram.IsZeroBased s := by
  unfold comparisonLayout at h ⊢
  simp only at h ⊢
  split at h
  case h_2 => cases h
  case h_1 left right hleft hright =>
    split at h
    case isTrue => cases h
    case isFalse hlabels =>
      let f := ComparisonFrame.of left right p.labels.length s
      have hmax : 0 < f.maxValue := scaleMax_pos _
      rw [if_neg hlabels]
      have hlengths : FromZero f.maxValue s.halfExtent ((p.labels.zipIdx.map fun (label, i) =>
          f.group p t s.comparison left right label i).flatMap fun g =>
            [(g.left.value, g.left.width), (g.right.value, g.right.width)]) := by
        refine .of_shares hmax (le_max_right _ _) ?_
        simp only [List.forall_mem_flatMap, List.forall_mem_map, List.forall_mem_cons,
          List.not_mem_nil, IsEmpty.forall_iff, implies_true, and_true]
        intro q hq
        constructor
        · exact ComparisonFrame.width_bar _ s (.inl rfl) p t 0 _
        · exact ComparisonFrame.width_bar _ s (.inr rfl) p t 1 _
      refine ⟨hlengths, List.forall_mem_map.2 fun q hq => ?_, List.forall_mem_map.2 fun q hq => ?_⟩
      · have hbound := hlengths.bounds _ (List.mem_flatMap.2
          ⟨_, List.mem_map_of_mem hq, List.mem_cons_self⟩)
        exact ComparisonFrame.bar_left_of_divider _ s p t _ hgap hbound.2
      · have hbound := hlengths.bounds _ (List.mem_flatMap.2
          ⟨_, List.mem_map_of_mem hq, List.mem_cons_of_mem _ List.mem_cons_self⟩)
        exact ComparisonFrame.bar_right_of_divider _ s p t _ hgap hbound.2

/-! ## All three kinds -/

/-- **Marks of bar, radar and comparison charts start at zero and stay within their extent.** They are
    those of the entries of the plan, with zero for a missing one, and their lengths are the shares that
    their amounts have of a maximum that no amount exceeds. Bars of a comparison need a distance from
    the edge for that, and no settings file changes the one that is built in. -/
theorem marks_start_at_zero (hkind : p.kind = .bar ∨ p.kind = .radar ∨ p.kind = .comparison)
    (hgap : s.comparison.centerGap = Settings.standard.comparison.centerGap)
    (h : (ofPlan p t s).isPlaceholder = false) :
    ((ofPlan p t s).diagram.Shows p.kind (p.content p.kind) ∧
      (ofPlan p t s).diagram.IsZeroBased s) ∧
    ∀ text c, Config.ofText? text = some c →
      c.settings.comparison.centerGap = (Settings.standard : Settings Float).comparison.centerGap := by
  refine ⟨?_, fun text c hc => congrArg _ (Config.comparison_ofText? hc)⟩
  unfold ofPlan at h ⊢
  rcases hkind with hkind | hkind | hkind
  · rw [hkind] at h ⊢
    exact ⟨(outcome_barLayout p t s).shows h, isZeroBased_barLayout h⟩
  · rw [hkind] at h ⊢
    exact ⟨(outcome_radarLayout p t s).shows h, isZeroBased_radarLayout h⟩
  · rw [hkind] at h ⊢
    have hnonneg : 0 ≤ s.comparison.centerGap := hgap ▸ Nat.cast_nonneg 20
    exact ⟨(outcome_comparisonLayout p t s).shows h, isZeroBased_comparisonLayout hnonneg h⟩

end Charts

/-! ## Two series of different lengths -/

/-- Two series of amounts next to each other, with three labels. -/
def Plan.sides {α : Type} (left right : List α) : Plan α where
  kind := .comparison
  title := ""
  orientation := .horizontal
  colors := []
  labels := ["1", "2", "3"]
  seriesLabels := []
  scaleLabels := []
  series := [⟨1, left.map fun v => ⟨v, ""⟩⟩, ⟨2, right.map fun v => ⟨v, ""⟩⟩]

/-- One amount is negative, and others are missing. -/
theorem marks_start_at_zero_of_sides :
    let _ : Written ℝ := Written.silent ℝ
    let l := ofPlan (Plan.sides [3, -1] [2] : Plan ℝ) Theme.classic Settings.standard
    l.isPlaceholder = false ∧ l.diagram.IsZeroBased Settings.standard := by
  let _ : Written ℝ := Written.silent ℝ
  refine ⟨rfl, ?_⟩
  exact (marks_start_at_zero (p := (Plan.sides [3, -1] [2] : Plan ℝ)) (t := Theme.classic)
    (.inr (.inr rfl)) rfl rfl).1.2

end Layout

end Infochart
