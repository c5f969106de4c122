import Infochart.Proofs.Layout.Lengths
import Infochart.Proofs.Layout.Points

/-!
# The axis of values

The steps of an axis and the marks of a chart are placed by rules of their own: a step by the share of its
index among all steps, a bar by the share of its amount in the greatest one, and the point of a line by the
place of its amount between the least and the greatest. The three agree on one coordinate for each share of
the axis (`Area.level`), so a mark whose amount a step names ends on the grid line of that step.
-/

namespace Infochart.Layout

open Chart (Kind Orientation)

/-! ## Axes and what is measured by them -/

section Axes

variable {α : Type} [Exact α]

/-- The edge of a plot at which its axis of values starts. -/
def Area.origin (plot : Area α) : Orientation → α
  | .vertical => plot.bottom
  | .horizontal => plot.left

/-- The edge of a plot at which its axis of values ends. -/
def Area.farEdge (plot : Area α) : Orientation → α
  | .vertical => plot.top
  | .horizontal => plot.right

/-- Whether an axis of values reaches one coordinate before another. It leads up or to the right. -/
def Precedes : Orientation → α → α → Prop
  | .vertical, c, c' => c' < c
  | .horizontal, c, c' => c < c'

/-- Whether both lines of a step are at a coordinate of the axis of values, from end to end. -/
def Tick.At (k : Tick α) (c : α) : Orientation → Prop
  | .vertical => (k.mark.y₁ = c ∧ k.mark.y₂ = c) ∧ k.gridline.y₁ = c ∧ k.gridline.y₂ = c
  | .horizontal => (k.mark.x₁ = c ∧ k.mark.x₂ = c) ∧ k.gridline.x₁ = c ∧ k.gridline.x₂ = c

/-- The free end of a bar, on the axis of values. -/
def Bar.tip (b : Bar α) : Orientation → α
  | .vertical => b.y
  | .horizontal => b.x + b.width

/-- The steps of an axis from one amount to another, and marks that are measured by it: amounts with the
    coordinates of their free ends. -/
structure Measures (ticks : List (Tick α)) (plot : Area α) (o : Orientation) (low high : α) (count : Nat)
    (marks : List (α × α)) : Prop where
  length : ticks.length = max count 1 + 1
  first : ∃ k, ticks.head? = some k ∧ k.value = low ∧ k.At (plot.origin o) o
  last : ∃ k, ticks.getLast? = some k ∧ k.value = high ∧ k.At (plot.farEdge o) o
  values : ticks.Pairwise fun k k' => k.value < k'.value
  places : ticks.Pairwise fun k k' => ∃ c c', k.At c o ∧ k'.At c' o ∧ Precedes o c c'
  marks : ∀ q ∈ marks, ∀ k ∈ ticks, q.1 = k.value → k.At q.2 o

/-- Whether a diagram is a chart with an axis of values that its marks are measured by. The axis of a line
    chart without a range has no length. -/
def Diagram.SharesScale (d : Diagram α) (count : Nat) : Prop :=
  match d with
  | .bar chart => Measures chart.ticks chart.plot chart.orientation 0 chart.maxValue count
      (chart.bars.map fun b => (b.value, b.tip chart.orientation))
  | .line chart => chart.minValue < chart.maxValue →
      Measures chart.ticks chart.plot .vertical chart.minValue chart.maxValue count
        (chart.points.map fun q => (q.value, q.y))
  | _ => False

/-! ## Shares of an axis -/

/-- The coordinate at a share of the axis of values. -/
def Area.level (plot : Area α) : Orientation → α → α
  | .vertical, ratio => plot.bottom - ratio * plot.height
  | .horizontal, ratio => plot.left + ratio * plot.width

variable (plot : Area α) (o : Orientation)

theorem level_zero : plot.level o 0 = plot.origin o := by
  cases o <;> simp [Area.level, Area.origin]

theorem level_one : plot.level o 1 = plot.farEdge o := by
  cases o <;> simp [Area.level, Area.farEdge, Area.bottom, Area.right]

variable {plot o}

theorem precedes_level (hacross : 0 < plot.across o) {r r' : α} (h : r < r') :
    Precedes o (plot.level o r) (plot.level o r') := by
  have hlt : r * plot.across o < r' * plot.across o := mul_lt_mul_of_pos_right h hacross
  cases o with
  | vertical => exact sub_lt_sub_left hlt plot.bottom
  | horizontal => exact add_lt_add_right hlt plot.left

/-! ## Steps -/

section Steps

variable [Written α] (plot o) (low high : α) (t : Theme α)

@[simp] theorem value_valueTick (ratio : α) :
    (valueTick plot o low high t ratio).value = low + ratio * (high - low) := by
  cases o <;> rfl

theorem at_valueTick (ratio : α) :
    (valueTick plot o low high t ratio).At (plot.level o ratio) o := by
  cases o with
  | vertical => exact ⟨⟨rfl, rfl⟩, rfl, rfl⟩
  | horizontal => exact ⟨⟨rfl, rfl⟩, rfl, rfl⟩

variable (count : Nat)

theorem head?_valueTicks : (valueTicks plot o low high count t).head? =
    some (valueTick plot o low high t 0) := by
  unfold valueTicks
  rw [List.head?_map, List.head?_range, if_neg (Nat.succ_ne_zero _), Option.map_some, Nat.cast_zero,
    zero_div]

theorem getLast?_valueTicks : (valueTicks plot o low high count t).getLast? =
    some (valueTick plot o low high t 1) := by
  have hne : ((max count 1 : Nat) : α) ≠ 0 := Nat.cast_ne_zero.2 (by omega)
  unfold valueTicks
  rw [List.getLast?_map, List.getLast?_range, if_neg (Nat.succ_ne_zero _), Option.map_some,
    Nat.add_sub_cancel, div_self hne]

variable {low high plot o} {t} {count}

/-- **The steps of an axis measure all marks that are placed by their share of it.** -/
theorem measures_valueTicks (hlt : low < high) (hacross : 0 < plot.across o) {marks : List (α × α)}
    (hmarks : ∀ q ∈ marks, ∀ r, 0 ≤ r → q.1 = low + r * (high - low) → q.2 = plot.level o r) :
    Measures (valueTicks plot o low high count t) plot o low high count marks := by
  have hpos : (0 : α) < ((max count 1 : Nat) : α) := Nat.cast_pos.2 (Nat.le_max_right count 1)
  have hratio {i j : Nat} (h : i < j) :
      (i : α) / ((max count 1 : Nat) : α) < (j : α) / ((max count 1 : Nat) : α) :=
    div_lt_div_of_pos_right (Nat.cast_lt.2 h) hpos
  exact {
    length := by
      unfold valueTicks
      rw [List.length_map, List.length_range]
    first := by
      refine ⟨_, head?_valueTicks .., ?_, level_zero plot o ▸ at_valueTick ..⟩
      rw [value_valueTick, zero_mul, add_zero]
    last := by
      refine ⟨_, getLast?_valueTicks .., ?_, level_one plot o ▸ at_valueTick ..⟩
      rw [value_valueTick, one_mul, add_sub_cancel]
    values := by
      unfold valueTicks
      rw [List.pairwise_map]
      refine List.pairwise_lt_range.imp fun h => ?_
      rw [value_valueTick, value_valueTick]
      exact add_lt_add_right (mul_lt_mul_of_pos_right (hratio h) (sub_pos.2 hlt)) low
    places := by
      unfold valueTicks
      rw [List.pairwise_map]
      refine List.pairwise_lt_range.imp fun h => ?_
      exact ⟨_, _, at_valueTick .., at_valueTick .., precedes_level hacross (hratio h)⟩
    marks := by
      intro q hq k hk heq
      obtain ⟨i, -, rfl⟩ := List.mem_map.1 hk
      rw [value_valueTick] at heq
      rw [hmarks q hq _ (div_nonneg (Nat.cast_nonneg i) hpos.le) heq]
      exact at_valueTick .. }

end Steps

end Axes

/-! ## Marks -/

section Marks

variable {α : Type} [Exact α]

/-- The free end of a bar is at the share that its amount has of the greatest one. -/
theorem BarFrame.tip_bar [Written α] (f : BarFrame α) (t : Theme α) (color : String) (i j : Nat) (v : α) :
    (f.bar t color i j v).tip f.orientation = f.plot.level f.orientation (max (v / f.maxValue) 0) := by
  unfold bar Bar.tip BarFrame.length Area.level Area.across
  simp only
  rw [greater_eq_max, literal_zero]
  cases f.orientation <;> rfl

/-- The amount at a share of a scale that starts at zero has that share of its end. -/
theorem share_of_zero_based {maximum r v : α} (hpos : 0 < maximum) (hr : 0 ≤ r)
    (h : v = 0 + r * (maximum - 0)) : max (v / maximum) 0 = r := by
  rw [h, zero_add, sub_zero, mul_div_cancel_right₀ r hpos.ne', max_eq_left hr]

/-- The amount at a share of the scale of lines is drawn at that share of the axis. -/
theorem LineFrame.yAt_eq_level {f : LineFrame α} (hlt : f.minValue < f.maxValue) {r v : α}
    (h : v = f.minValue + r * (f.maxValue - f.minValue)) : f.yAt v = f.plot.level .vertical r := by
  unfold yAt Area.level
  rw [shareOf_eq hlt, h, add_sub_cancel_left, mul_div_cancel_right₀ r (sub_pos.2 hlt).ne']

end Marks

/-! ## Charts -/

section Charts

variable {α : Type} [Exact α] [Written α] {p : Plan α} {t : Theme α} {s : Settings α}

theorem sharesScale_barLayout (h : (barLayout p t s).isPlaceholder = false) :
    (barLayout p t s).diagram.SharesScale s.tickCount := by
  let f := BarFrame.of p s
  have hmax : 0 < f.maxValue := scaleMax_pos _
  unfold barLayout at h ⊢
  simp only at h ⊢
  rw [diagram_of_drawn h]
  unfold Diagram.SharesScale
  rw [literal_zero]
  refine measures_valueTicks hmax (across_plotArea_pos _ _ _) (List.forall_mem_map.2 fun b hb => ?_)
  intro r hr heq
  obtain ⟨i, j, d, e, -, -, rfl⟩ := mem_seriesBars t f hb
  rw [value_bar] at heq
  calc _ = f.plot.level f.orientation (max (e.amount / f.maxValue) 0) := f.tip_bar t _ i j e.amount
    _ = f.plot.level f.orientation r := by rw [share_of_zero_based hmax hr heq]

theorem sharesScale_lineLayout (h : (lineLayout p t s).isPlaceholder = false) :
    (lineLayout p t s).diagram.SharesScale s.tickCount := by
  let f := LineFrame.of p s
  unfold lineLayout at h ⊢
  simp only at h ⊢
  rw [diagram_of_drawn h]
  intro hlt
  refine measures_valueTicks hlt (across_plotArea_pos _ _ _) (List.forall_mem_map.2 fun q hq => ?_)
  intro r _ heq
  obtain ⟨l, hl, hq⟩ := List.mem_flatMap.1 hq
  obtain ⟨⟨d, k⟩, -, rfl⟩ := List.mem_map.1 hl
  obtain ⟨i, -, e, -, rfl⟩ := LineFrame.exists_entry_of_mem (f := f) t _ _ d hq
  exact LineFrame.yAt_eq_level hlt heq

/-- **The steps of a value axis and the marks of a chart have one scale.** The axis has a step for each
    part that it is divided into and one more, from the least amount at its origin to the greatest at the
    far edge, and a mark whose amount is that of a step ends on both lines of it. -/
theorem ticks_measure_marks (hkind : p.kind = .bar ∨ p.kind = .line)
    (h : (ofPlan p t s).isPlaceholder = false) :
    (ofPlan p t s).diagram.Shows p.kind (p.content p.kind) ∧
      (ofPlan p t s).diagram.SharesScale s.tickCount := by
  unfold ofPlan at h ⊢
  rcases hkind with hkind | hkind
  · rw [hkind] at h ⊢
    exact ⟨(outcome_barLayout p t s).shows h, sharesScale_barLayout h⟩
  · rw [hkind] at h ⊢
    exact ⟨(outcome_lineLayout p t s).shows h, sharesScale_lineLayout h⟩

end Charts

/-- The bars lie on their side, one of them has no length, and two end on a grid line. -/
theorem ticks_measure_marks_of_sides :
    let _ : Written ℝ := Written.silent ℝ
    let p : Plan ℝ := Plan.graph .bar .horizontal [[5, -1, 2], [3]]
    (p.kind = .bar ∨ p.kind = .line) ∧
      (ofPlan p Theme.classic Settings.standard).isPlaceholder = false ∧
      (ofPlan p Theme.classic Settings.standard).diagram.SharesScale 5 := by
  intro _ p
  have hdrawn : (ofPlan p Theme.classic Settings.standard).isPlaceholder = false := rfl
  exact ⟨.inl rfl, hdrawn, (ticks_measure_marks (.inl rfl) hdrawn).2⟩

end Infochart.Layout
