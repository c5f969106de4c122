import Infochart.Layout.Compute

/-!
# The colors of a layout

A layout names colors where they tell data apart: on bars, slices, lines, steps and events, in the
legend, and on the texts that stand on filled shapes. All of them are colors of the plan or the one
color of the theme for texts on fills, so whatever holds of these holds of every color in the layout.

The property is left open, because it is used with two: that a color holds no markup, for themes of which
this is known, and that it holds none or is a color of the theme, for all themes. The colors of a plan are
asked for at every place and not only as far as there are series, since they repeat; so the proofs need no
count, and `forall_mem_zipIdx` forgets how long a list is.
-/

namespace Infochart.Layout

variable {α : Type}

/-! ## What holds of every color -/

/-- A label that names a color. Most do not, and get that of the theme when they are drawn. -/
def Label.Colored (P : String → Prop) (l : Label α) : Prop :=
  ∀ c ∈ l.color, P c

structure LegendItem.Colored (P : String → Prop) (i : LegendItem α) : Prop where
  color : P i.color
  label : i.label.Colored P

structure Bar.Colored (P : String → Prop) (b : Bar α) : Prop where
  color : P b.color
  label : b.label.Colored P

structure BarChart.Colored (P : String → Prop) (c : BarChart α) : Prop where
  ticks : ∀ k ∈ c.ticks, k.label.Colored P
  bars : ∀ b ∈ c.bars, b.Colored P
  categories : ∀ l ∈ c.categories, l.Colored P
  legend : ∀ i ∈ c.legend, i.Colored P

structure Slice.Colored (P : String → Prop) (s : Slice α) : Prop where
  color : P s.color
  label : s.percentLabel.Colored P

structure PieChart.Colored (P : String → Prop) (c : PieChart α) : Prop where
  slices : ∀ s ∈ c.slices, s.Colored P
  legend : ∀ i ∈ c.legend, i.Colored P

structure LineSeries.Colored (P : String → Prop) (s : LineSeries α) : Prop where
  color : P s.color
  points : ∀ p ∈ s.points, p.label.Colored P

structure LineChart.Colored (P : String → Prop) (c : LineChart α) : Prop where
  ticks : ∀ k ∈ c.ticks, k.label.Colored P
  categories : ∀ l ∈ c.categories, l.Colored P
  series : ∀ s ∈ c.series, s.Colored P
  legend : ∀ i ∈ c.legend, i.Colored P

structure RadarSeries.Colored (P : String → Prop) (s : RadarSeries α) : Prop where
  color : P s.color
  points : ∀ p ∈ s.points, p.label.Colored P

structure RadarChart.Colored (P : String → Prop) (c : RadarChart α) : Prop where
  rings : ∀ r ∈ c.rings, ∀ l ∈ r.label, l.Colored P
  axes : ∀ a ∈ c.axes, a.label.Colored P
  series : ∀ s ∈ c.series, s.Colored P
  legend : ∀ i ∈ c.legend, i.Colored P

structure Step.Colored (P : String → Prop) (s : Step α) : Prop where
  color : P s.color
  title : s.title.Colored P
  description : ∀ l ∈ s.description, l.Colored P

structure Event.Colored (P : String → Prop) (e : Event α) : Prop where
  color : P e.color
  date : e.date.Colored P
  title : e.title.Colored P
  description : ∀ l ∈ e.description, l.Colored P

structure Group.Colored (P : String → Prop) (g : Group α) : Prop where
  category : g.category.Colored P
  left : g.left.Colored P
  right : g.right.Colored P

structure ComparisonChart.Colored (P : String → Prop) (c : ComparisonChart α) : Prop where
  leftName : c.leftName.Colored P
  rightName : c.rightName.Colored P
  groups : ∀ g ∈ c.groups, g.Colored P

/-- The box in place of a chart names no color; it is drawn in those of the theme. -/
def Diagram.Colored (P : String → Prop) : Diagram α → Prop
  | .bar c => c.Colored P
  | .pie c => c.Colored P
  | .line c => c.Colored P
  | .radar c => c.Colored P
  | .process d => ∀ s ∈ d.steps, s.Colored P
  | .timeline l => ∀ e ∈ l.events, e.Colored P
  | .comparison c => c.Colored P
  | .placeholder _ => True

/-- Whether a property holds of every color that a layout names. -/
structure Colored (P : String → Prop) (l : Layout α) : Prop where
  title : ∀ t ∈ l.title, t.Colored P
  diagram : l.diagram.Colored P

/-! ## Parts that the charts share -/

section Parts

variable {P : String → Prop}

/-- A label without a color of its own. -/
theorem Label.colored_of_none {l : Label α} (h : l.color = none) : l.Colored P := by
  intro c hc
  rw [h] at hc
  cases hc

/-- A label with the color of what it stands on or belongs to. -/
theorem Label.colored_of_some {l : Label α} {color : String} (h : l.color = some color)
    (hcolor : P color) : l.Colored P := by
  intro c hc
  rw [h] at hc
  rw [← Option.some.inj hc]
  exact hcolor

/-- An event is colored by its dot alone. Its description is there only if there is a text for it, so it is
    given by the text and by what is made of any text. -/
theorem Event.colored_of_none {e : Event α} {description : Option String} {label : String → Label α}
    (hcolor : P e.color) (hdate : e.date.color = none) (htitle : e.title.color = none)
    (hdescription : e.description = description.map label)
    (hlabel : ∀ text, (label text).color = none) : e.Colored P where
  color := hcolor
  date := Label.colored_of_none hdate
  title := Label.colored_of_none htitle
  description := by
    intro l hl
    rw [hdescription] at hl
    obtain ⟨text, -, rfl⟩ := Option.map_eq_some_iff.1 hl
    exact Label.colored_of_none (hlabel text)

/-- The items made from the entries of a list with their positions, for any entries and any positions. -/
theorem forall_mem_zipIdx {β γ : Type} {Q : γ → Prop} {f : β × Nat → γ} (h : ∀ b i, Q (f (b, i)))
    (bs : List β) : ∀ c ∈ bs.zipIdx.map f, Q c := by
  intro c hc
  obtain ⟨⟨b, i⟩, -, rfl⟩ := List.mem_map.1 hc
  exact h b i

/-- A legend that is there only with more than one series. -/
theorem colored_rows {row : Nat → LegendItem α} (h : ∀ i, (row i).Colored P) (count : Nat) :
    ∀ i ∈ (if 1 < count then (List.range count).map row else []), i.Colored P := by
  intro i hi
  split at hi
  · obtain ⟨n, -, rfl⟩ := List.mem_map.1 hi
    exact h n
  · cases hi

variable [Scale α]

theorem colored_legendItem {color : String} (h : P color) (x y width height : α) (text : String)
    (t : Theme α) : (legendItem x y width height color text t).Colored P :=
  ⟨h, Label.colored_of_none rfl⟩

theorem colored_valueTicks [Written α] (plot : Area α) (orientation : Chart.Orientation)
    (low high : α) (count : Nat) (t : Theme α) :
    ∀ k ∈ valueTicks plot orientation low high count t, k.label.Colored P := by
  intro k hk
  obtain ⟨i, -, rfl⟩ := List.mem_map.1 hk
  refine Label.colored_of_none ?_
  unfold valueTick
  cases orientation <;> rfl

theorem colored_placeholder (kind : Option Chart.Kind) (canvas : Canvas α) (s : Settings α)
    (reason : Reason) : Colored P (placeholder kind canvas s reason) := by
  refine ⟨fun l hl => ?_, trivial⟩
  cases hl

theorem colored_chartLayout {p : Plan α} {kind : Chart.Kind} {t : Theme α} {s : Settings α}
    {d : Diagram α} (h : d.Colored P) : Colored P (chartLayout p kind t s d) := by
  refine ⟨fun l hl => ?_, h⟩
  rw [← Option.some.inj hl]
  exact Label.colored_of_none rfl

end Parts

/-! ## The seven kinds of charts -/

section Kinds

variable [Scale α] {P : String → Prop} {p : Plan α} {t : Theme α} (hp : ∀ i, P (p.color i))
include hp

/-- Steps have their texts inside, so it takes the color for texts on fills. -/
theorem colored_processLayout (ht : P t.onFillTextColor) (s : Settings α) :
    Colored P (processLayout p t s) := by
  unfold processLayout
  split
  · exact colored_placeholder _ _ _ _
  refine colored_chartLayout (forall_mem_zipIdx (fun label i => ⟨hp i, Label.colored_of_some rfl ht,
    fun l hl => ?_⟩) _)
  unfold ProcessFrame.step ProcessFrame.description at hl
  simp only at hl
  split at hl
  · cases hl
  · exact forall_mem_zipIdx (fun _ _ => Label.colored_of_some rfl ht) _ l hl

theorem colored_timelineLayout (s : Settings α) : Colored P (timelineLayout p t s) := by
  unfold timelineLayout
  split
  · exact colored_placeholder _ _ _ _
  refine colored_chartLayout (forall_mem_zipIdx (fun label i => ?_) _)
  simp only
  split
  · exact Event.colored_of_none (hp i) rfl rfl rfl fun _ => rfl
  · exact Event.colored_of_none (hp i) rfl rfl rfl fun _ => rfl

theorem colored_lineSeries (f : LineFrame α) (name : String) (d : Series α) (i : Nat) :
    (f.series t name (p.color i) d).Colored P := by
  refine ⟨hp i, fun q hq => ?_⟩
  obtain ⟨e, -, rfl⟩ := List.mem_map.1 hq
  exact Label.colored_of_none rfl

theorem colored_radarSeries (f : RadarFrame α) (name : String) (d : Series α) (i : Nat) :
    (f.series t name (p.color i) d).Colored P := by
  refine ⟨hp i, fun q hq => ?_⟩
  obtain ⟨n, -, rfl⟩ := List.mem_map.1 hq
  exact Label.colored_of_some rfl (hp i)

theorem colored_comparisonBar (f : ComparisonFrame α) (s : ComparisonSettings α) (d : Series α)
    (side category : Nat) : (f.bar p t s d side category).Colored P := by
  refine ⟨hp side, Label.colored_of_none ?_⟩
  unfold ComparisonFrame.bar
  simp only
  split <;> rfl

theorem colored_comparisonLayout (s : Settings α) : Colored P (comparisonLayout p t s) := by
  unfold comparisonLayout
  simp only
  split
  · split
    · exact colored_placeholder _ _ _ _
    · exact colored_chartLayout ⟨Label.colored_of_none rfl, Label.colored_of_none rfl,
        forall_mem_zipIdx (fun label i => ⟨Label.colored_of_none rfl,
          colored_comparisonBar hp _ _ _ _ _, colored_comparisonBar hp _ _ _ _ _⟩) _⟩
  · exact colored_placeholder _ _ _ _

variable [Written α]

theorem colored_barLayout (s : Settings α) : Colored P (barLayout p t s) := by
  unfold barLayout
  simp only
  split
  · exact colored_placeholder _ _ _ _
  refine colored_chartLayout ⟨colored_valueTicks _ _ _ _ _ _, fun b hb => ?_,
    forall_mem_zipIdx (fun text i => Label.colored_of_none ?_) _,
    colored_rows (fun i => colored_legendItem (hp i) _ _ _ _ _ _) _⟩
  · obtain ⟨⟨d, i⟩, -, hb⟩ := List.mem_flatMap.1 hb
    refine forall_mem_zipIdx (fun value category => ?_) _ b hb
    unfold BarFrame.bar
    simp only
    split <;> exact ⟨hp i, Label.colored_of_none rfl⟩
  · unfold BarFrame.categoryLabel
    simp only
    split <;> rfl

/-- Slices have their shares inside, so it takes the color for texts on fills. A row of the legend has the
    color of the place among all amounts, and not that of its place in the legend. -/
theorem colored_pieLayout (ht : P t.onFillTextColor) (s : Settings α) :
    Colored P (pieLayout p t s) := by
  unfold pieLayout
  simp only
  split
  · exact colored_placeholder _ _ _ _
  split
  · exact colored_placeholder _ _ _ _
  refine colored_chartLayout ⟨fun x hx => ?_,
    forall_mem_zipIdx (fun share row => colored_legendItem (hp share.index) _ _ _ _ _ _) _⟩
  obtain ⟨share, -, rfl⟩ := List.mem_map.1 hx
  exact ⟨hp share.index, Label.colored_of_some rfl ht⟩

theorem colored_lineLayout (s : Settings α) : Colored P (lineLayout p t s) := by
  unfold lineLayout
  simp only
  split
  · exact colored_placeholder _ _ _ _
  exact colored_chartLayout ⟨colored_valueTicks _ _ _ _ _ _,
    forall_mem_zipIdx (fun _ _ => Label.colored_of_none rfl) _,
    forall_mem_zipIdx (fun d i => colored_lineSeries hp _ _ d i) _,
    colored_rows (fun i => ⟨hp i, Label.colored_of_none rfl⟩) _⟩

theorem colored_radarLayout (s : Settings α) : Colored P (radarLayout p t s) := by
  unfold radarLayout
  simp only
  split
  · exact colored_placeholder _ _ _ _
  have hseries : ∀ e ∈ (radarSeries p).zipIdx.map fun e =>
      (RadarFrame.of p s).series t (p.seriesName e.2) (p.color e.2) e.1, e.Colored P :=
    forall_mem_zipIdx (fun d i => colored_radarSeries hp _ _ d i) _
  refine colored_chartLayout ⟨fun r hr l hl => ?_, fun a ha => ?_, hseries, fun item hitem => ?_⟩
  · obtain ⟨i, -, rfl⟩ := List.mem_map.1 hr
    unfold RadarFrame.ring at hl
    simp only at hl
    split at hl
    · rw [← Option.some.inj hl]
      exact Label.colored_of_none rfl
    · cases hl
  · obtain ⟨e, -, rfl⟩ := List.mem_map.1 ha
    exact Label.colored_of_none rfl
  · -- The rows of the legend take their colors from the series.
    split at hitem
    · obtain ⟨⟨e, i⟩, he, rfl⟩ := List.mem_map.1 hitem
      exact colored_legendItem (hseries e (List.fst_mem_of_mem_zipIdx he)).color _ _ _ _ _ _
    · cases hitem

/-- **What holds of the colors of a plan, and of the color of texts on fills, holds of every color of
    its layout.** -/
theorem colored_ofPlan (ht : P t.onFillTextColor) (s : Settings α) : Colored P (ofPlan p t s) := by
  unfold ofPlan
  split
  · exact colored_barLayout hp s
  · exact colored_pieLayout hp ht s
  · exact colored_lineLayout hp s
  · exact colored_radarLayout hp s
  · exact colored_processLayout hp ht s
  · exact colored_timelineLayout hp s
  · exact colored_comparisonLayout hp s

end Kinds

end Infochart.Layout
