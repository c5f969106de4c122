import Infochart.Proofs.Layout.Defined
import Infochart.Proofs.Layout.Shares

/-!
# Measures of moderate size

Settings, themes and plans are moderate if their measures and counts fit into 64 bits; amounts need only
be finite. Everything but the amounts is then far from the greatest number, and so are the parts that all
charts share: the plot area, the title, the box in place of a chart, and the rows of a legend. The steps
of an axis are the one part that looks at the amounts themselves.

64 bits are a choice. Counts have them anyway, the standard measures are far below, and the bounds that
come out of a few products of such numbers are far below `2 ^ 1024`. So a settings file may change any
measure within that range and all that is proved here still holds.
-/

namespace Infochart

open Layout (Within Binary64 AllFinite)

variable {α : Type} [Layout.Scale α] [Binary64 α]

/-! ## Settings, themes and plans -/

namespace Layout

structure Canvas.Moderate (c : Canvas α) : Prop where
  width : Within 64 c.width
  height : Within 64 c.height

structure BarSettings.Moderate (s : BarSettings α) : Prop where
  maxWidth : Within 64 s.maxWidth
  maxThickness : Within 64 s.maxThickness
  fillRatio : Within 64 s.fillRatio
  legendSwatch : Within 64 s.legendSwatch
  legendSpacing : Within 64 s.legendSpacing

structure PieSettings.Moderate (s : PieSettings α) : Prop where
  radius : Within 64 s.radius
  labelRadiusRatio : Within 64 s.labelRadiusRatio
  legendSpacing : Within 64 s.legendSpacing
  legendSwatch : Within 64 s.legendSwatch

structure LineSettings.Moderate (s : LineSettings α) : Prop where
  pointRadius : Within 64 s.pointRadius
  strokeWidth : Within 64 s.strokeWidth
  legendSpacing : Within 64 s.legendSpacing

structure RadarSettings.Moderate (s : RadarSettings α) : Prop where
  radius : Within 64 s.radius
  rings : s.rings ≤ 2 ^ 64
  fillOpacity : Within 64 s.fillOpacity
  pointRadius : Within 64 s.pointRadius
  labelOffset : Within 64 s.labelOffset
  legendSpacing : Within 64 s.legendSpacing

structure ProcessSettings.Moderate (s : ProcessSettings α) : Prop where
  boxWidth : Within 64 s.boxWidth
  boxHeight : Within 64 s.boxHeight
  arrowLength : Within 64 s.arrowLength
  columnBoxWidth : Within 64 s.columnBoxWidth
  columnBoxHeight : Within 64 s.columnBoxHeight
  columnArrowLength : Within 64 s.columnArrowLength
  cornerRadius : Within 64 s.cornerRadius
  maxDescriptionLines : s.maxDescriptionLines ≤ 2 ^ 64

structure TimelineSettings.Moderate (s : TimelineSettings α) : Prop where
  dotRadius : Within 64 s.dotRadius
  axisWidth : Within 64 s.axisWidth
  labelOffset : Within 64 s.labelOffset
  connectorLength : Within 64 s.connectorLength

structure ComparisonSettings.Moderate (s : ComparisonSettings α) : Prop where
  barHeight : Within 64 s.barHeight
  groupGap : Within 64 s.groupGap
  barGap : Within 64 s.barGap
  centerGap : Within 64 s.centerGap

structure Settings.Moderate (s : Settings α) : Prop where
  canvas : ∀ kind, (s.canvas kind).Moderate
  margin : Within 64 s.margin
  tickCount : s.tickCount < 2 ^ 53
  bar : s.bar.Moderate
  pie : s.pie.Moderate
  line : s.line.Moderate
  radar : s.radar.Moderate
  process : s.process.Moderate
  timeline : s.timeline.Moderate
  comparison : s.comparison.Moderate

/-- A plan with counts that fit, and with amounts of whatever size. That they are finite is not asked of the
    data: what a text says beyond that is read as zero. -/
structure Plan.Moderate (p : Plan α) : Prop where
  labels : p.labels.length ≤ 2 ^ 64
  entries : ∀ d ∈ p.series, d.entries.length ≤ 2 ^ 64
  amounts : ∀ d ∈ p.series, AllFinite d.amounts

end Layout

structure Theme.Moderate (t : Theme α) : Prop where
  fontSize : Within 64 t.fontSize
  titleFontSize : Within 64 t.titleFontSize
  smallFontSize : Within 64 t.smallFontSize

namespace Layout

/-- A number that is written out. -/
theorem within_literal {n : Nat} (hn : n ≤ 2 ^ 64 := by decide) : Within 64 (OfNat.ofNat n : α) :=
  within_natCast hn

theorem within_fraction {m n : Nat} (hm : m ≤ 2 ^ 64 := by decide) (hn : 0 < n := by decide)
    (hn' : n ≤ 2 ^ 64 := by decide) : Within 64 ((m : α) / (n : α)) :=
  (within_natCast hm).div_natCast hn hn'

theorem within_half : Within 64 (half : α) :=
  within_fraction

/-- **The standard settings are moderate.** -/
theorem moderate_standard : (Settings.standard : Settings α).Moderate where
  canvas := by
    intro kind
    cases kind <;> exact ⟨within_literal, within_literal⟩
  margin := within_literal
  tickCount := (by decide : 5 < 2 ^ 53)
  bar :=
    { maxWidth := within_literal
      maxThickness := within_literal
      fillRatio := within_fraction
      legendSwatch := within_literal
      legendSpacing := within_literal }
  pie :=
    { radius := within_literal
      labelRadiusRatio := within_fraction
      legendSpacing := within_literal
      legendSwatch := within_literal }
  line :=
    { pointRadius := within_literal
      strokeWidth := within_literal
      legendSpacing := within_literal }
  radar :=
    { radius := within_literal
      rings := (by decide : 5 ≤ 2 ^ 64)
      fillOpacity := within_fraction
      pointRadius := within_literal
      labelOffset := within_literal
      legendSpacing := within_literal }
  process :=
    { boxWidth := within_literal
      boxHeight := within_literal
      arrowLength := within_literal
      columnBoxWidth := within_literal
      columnBoxHeight := within_literal
      columnArrowLength := within_literal
      cornerRadius := within_literal
      maxDescriptionLines := (by decide : 2 ≤ 2 ^ 64) }
  timeline :=
    { dotRadius := within_literal
      axisWidth := within_literal
      labelOffset := within_literal
      connectorLength := within_literal }
  comparison :=
    { barHeight := within_literal
      groupGap := within_literal
      barGap := within_literal
      centerGap := within_literal }

theorem moderate_classic : (Theme.classic : Theme α).Moderate where
  fontSize := within_literal
  titleFontSize := within_literal
  smallFontSize := within_literal

/-! ## Parts that the charts share -/

/-- An area whose edges are of moderate size. Width and height may be larger than the edges on the near
    side: twice a margin is taken off the canvas, and a margin is a measure like any other. -/
structure Area.Bounded (a : Area α) : Prop where
  left : Within 64 a.left
  top : Within 64 a.top
  width : Within 129 a.width
  height : Within 129 a.height

namespace Area.Bounded

variable {a : Area α}

theorem right (h : a.Bounded) : Within 130 a.right :=
  h.left.add h.width

theorem bottom (h : a.Bounded) : Within 130 a.bottom :=
  h.top.add h.height

theorem defined (h : a.Bounded) : a.Defined where
  left := h.left.isFinite
  top := h.top.isFinite
  width := h.width.isFinite
  height := h.height.isFinite
  right := h.right.isFinite
  bottom := h.bottom.isFinite

end Area.Bounded

/-- The plot area is what is left of the canvas between two margins. -/
theorem bounded_plotArea {canvas : Canvas α} {margin : α} (hc : canvas.Moderate)
    (hm : Within 64 margin) : (plotArea canvas margin).Bounded := by
  have hmargins := (within_literal (α := α) (n := 2)).mul hm
  have hone := (within_literal (α := α) (n := 1)).mono (k := 129)
  exact
    { left := hm
      top := hm
      width := (hc.width.sub hmargins).greater hone
      height := (hc.height.sub hmargins).greater hone }

/-- A label at a place that is not too far away. The bound is one for all labels, so that those who place
    them widen theirs to it and need not agree on any other. -/
theorem defined_label {l : Label α} (hx : Within 500 l.x) (hy : Within 500 l.y)
    (hsize : Within 500 l.size) : l.Defined where
  x := hx.isFinite
  y := hy.isFinite
  size := hsize.isFinite

theorem defined_segment {s : Segment α} (hx₁ : Within 500 s.x₁) (hy₁ : Within 500 s.y₁)
    (hx₂ : Within 500 s.x₂) (hy₂ : Within 500 s.y₂) : s.Defined where
  x₁ := hx₁.isFinite
  y₁ := hy₁.isFinite
  x₂ := hx₂.isFinite
  y₂ := hy₂.isFinite

/-- The items made from the entries of a list with their positions. -/
theorem forall_mem_indexed {β γ : Type} {Q : γ → Prop} {f : β × Nat → γ} {bs : List β}
    (h : ∀ b ∈ bs, ∀ i < bs.length, Q (f (b, i))) : ∀ c ∈ bs.zipIdx.map f, Q c := by
  intro c hc
  obtain ⟨⟨b, i⟩, hb, rfl⟩ := List.mem_map.1 hc
  exact h b (List.fst_mem_of_mem_zipIdx hb) i (List.snd_lt_of_mem_zipIdx hb)

/-- The items made from the numbers below a bound. -/
theorem forall_mem_range {γ : Type} {Q : γ → Prop} {f : Nat → γ} {n : Nat}
    (h : ∀ i < n, Q (f i)) : ∀ c ∈ (List.range n).map f, Q c := by
  intro c hc
  obtain ⟨i, hi, rfl⟩ := List.mem_map.1 hc
  exact h i (List.mem_range.1 hi)

omit [Binary64 α] in
theorem defined_polyline {points : List (α × α)} (h : ∀ q ∈ points, IsDefined q.1 ∧ IsDefined q.2)
    (closed : Bool) : (Path.polyline points closed).Defined := by
  unfold Path.Defined Path.polyline
  simp only
  cases points with
  | nil => simp
  | cons q r =>
    obtain ⟨hq, hr⟩ := List.forall_mem_cons.1 h
    intro m hm
    rcases List.mem_append.1 hm with hm | hm
    · rcases List.mem_cons.1 hm with rfl | hm
      · exact hq
      · obtain ⟨e, he, rfl⟩ := List.mem_map.1 hm
        exact hr e he
    · split at hm
      · obtain rfl := List.mem_singleton.1 hm
        trivial
      · cases hm

section

variable {t : Theme α} {s : Settings α} (ht : t.Moderate) (hs : s.Moderate)

omit [Binary64 α] in
/-- A legend that is there only with more than one series. -/
theorem defined_rows {row : Nat → LegendItem α} {count : Nat} (h : ∀ i < count, (row i).Defined) :
    ∀ i ∈ (if 1 < count then (List.range count).map row else []), i.Defined := by
  split
  · exact forall_mem_range h
  · simp

include ht in
theorem defined_legendItem {x y width height : α} (color text : String) (hx : Within 400 x)
    (hy : Within 400 y) (hw : Within 64 width) (hh : Within 64 height) :
    (legendItem x y width height color text t).Defined where
  x := hx.isFinite
  y := hy.isFinite
  width := hw.isFinite
  height := hh.isFinite
  label := defined_label
    ((hx.add hw).add within_literal).mono
    (hy.add within_literal).mono ht.fontSize.mono

include hs ht in
theorem defined_chartLayout {p : Plan α} {kind : Chart.Kind} {d : Diagram α} (h : d.Defined) :
    (chartLayout p kind t s d).Defined where
  width := (hs.canvas kind).width.isFinite
  height := (hs.canvas kind).height.isFinite
  title := by
    intro l hl
    obtain rfl := Option.some.inj hl
    exact defined_label ((hs.canvas kind).width.div_natCast).mono
      (within_literal).mono ht.titleFontSize.mono
  diagram := h

include hs in
theorem defined_placeholder {canvas : Canvas α} (hc : canvas.Moderate) (kind : Option Chart.Kind)
    (reason : Reason) : (placeholder kind canvas s reason).Defined := by
  -- The box is as wide as the plot area of the canvas.
  have hwidth := (bounded_plotArea hc hs.margin).width
  have hheight : Within 64 (placeholderHeight : α) := within_literal
  have hx := (hc.width.sub hwidth).div_natCast (n := 2)
  have hy := (hc.height.sub hheight).div_natCast (n := 2)
  exact
    { width := hc.width.isFinite
      height := hc.height.isFinite
      title := by
        intro l hl
        cases hl
      diagram :=
        { x := hx.isFinite
          y := hy.isFinite
          width := hwidth.isFinite
          height := hheight.isFinite
          middleX := (hx.add hwidth.div_natCast).isFinite
          middleY := (hy.add hheight.div_natCast).isFinite } }

include hs in
theorem defined_insufficient (kind : Chart.Kind) (requirement : String) :
    (insufficient kind requirement s).Defined :=
  defined_placeholder hs (hs.canvas kind) _ _

/-! ## The steps of an axis -/

variable [Written α] {plot : Area α} (hplot : plot.Bounded)

include ht hplot

/-- A step of an axis. Its place is a share of the plot and has a bound, while its value is computed from the
    amounts and has none, so that it is finite is an assumption. -/
theorem defined_valueTick {low high ratio : α} (orientation : Chart.Orientation)
    (hvalue : IsDefined (low + ratio * (high - low))) (hratio : Within 0 ratio) :
    (valueTick plot orientation low high t ratio).Defined := by
  have hsize := ht.fontSize.mono (k := 500)
  unfold valueTick
  cases orientation with
  | vertical =>
    have hy := (hplot.bottom.sub (hratio.mul hplot.height)).mono (k := 500)
    have hleft := hplot.left.mono (k := 500)
    exact
      { value := hvalue
        mark := defined_segment (hplot.left.sub within_literal).mono hy hleft hy
        gridline := defined_segment hleft hy hplot.right.mono hy
        label := defined_label (hplot.left.sub within_literal).mono hy hsize }
  | horizontal =>
    have hx := (hplot.left.add (hratio.mul hplot.width)).mono (k := 500)
    have hbottom := hplot.bottom.mono (k := 500)
    exact
      { value := hvalue
        mark := defined_segment hx hbottom hx (hplot.bottom.add within_literal).mono
        gridline := defined_segment hx hplot.top.mono hx hbottom
        label := defined_label hx (hplot.bottom.add within_literal).mono hsize }

/-- **The steps of an axis are defined if its last value is.** Counts of steps are below `2 ^ 53`, where they
    are exact; so the share of a step is at most one, and not just about one. -/
theorem defined_valueTicks {low high : α} {l h : ℚ} (orientation : Chart.Orientation) {count : Nat}
    (hlow : Binary64.value? low = some l) (hhigh : Binary64.value? high = some h) (hlh : l ≤ h)
    (hend : IsDefined (low + (high - low))) (hcount : count < 2 ^ 53) :
    ∀ k ∈ valueTicks plot orientation low high count t, k.Defined := by
  refine forall_mem_range fun i hi => ?_
  obtain ⟨r, hr, hr0, hr1⟩ := exists_ratio (α := α) (i := i) (n := max count 1) (by omega) (by omega)
    (by omega)
  have hratio : Within 0 ((i : α) / ((max count 1 : Nat) : α)) := by
    refine within_of_value hr ?_
    rw [abs_of_nonneg hr0, pow_zero]
    exact hr1
  exact defined_valueTick ht hplot orientation (isFinite_step hlow hhigh hr hlh hr0 hr1 hend) hratio

end

end Layout
end Infochart
