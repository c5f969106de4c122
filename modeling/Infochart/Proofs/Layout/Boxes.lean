import Infochart.Proofs.Layout.Measures

/-!
# Boxes and events without undefined numbers

Process diagrams and timelines show no amounts. Their numbers come from measures and counts alone, and
are finite because these are of moderate size.

The sizes of boxes and the distances of events do not depend on whether there is room for them. So a
diagram may be as long as its count makes it, far beyond the canvas on both sides; with `2 ^ 64` boxes of
`2 ^ 64` each that is still a number. Each structure `Bounded` keeps the exponents that come out, and
where a coordinate is handed on they are raised by `mono` to the common bound that labels ask for.
-/

namespace Infochart.Layout

variable {α : Type} [Scale α] [Binary64 α] {p : Plan α} {t : Theme α} {s : Settings α}

/-! ## Process diagrams -/

/-- The measures of a process diagram. The origin is that of the first box; it has the larger bound, because
    the extent of all boxes goes into it. -/
structure ProcessFrame.Bounded (f : ProcessFrame α) : Prop where
  boxWidth : Within 64 f.boxWidth
  boxHeight : Within 64 f.boxHeight
  arrowLength : Within 64 f.arrowLength
  titleOffset : Within 64 f.titleOffset
  originX : Within 140 f.originX
  originY : Within 140 f.originY

/-- The extent of boxes with arrows between them. There is one arrow less than there are boxes; the count
    is made smaller as a number of the scale, so nothing has to be known about a diagram without any. -/
theorem within_extent {n : Nat} {box arrow : α} (hn : n ≤ 2 ^ 64) (hb : Within 64 box)
    (ha : Within 64 arrow) :
    Within 130 ((n : α) * box + ((n : α) - 1) * arrow) :=
  ((within_natCast hn).mul hb).add (((within_natCast hn).sub within_literal).mul ha)

theorem bounded_processFrame (hp : p.Moderate) (hs : s.Moderate) :
    (ProcessFrame.of p s).Bounded := by
  have hc := hs.canvas .process
  unfold ProcessFrame.of
  simp only
  -- A row is centered by the extent of all its boxes, a column by the width of one.
  split
  · have htotal := within_extent hp.labels hs.process.boxWidth hs.process.arrowLength
    exact
      { boxWidth := hs.process.boxWidth
        boxHeight := hs.process.boxHeight
        arrowLength := hs.process.arrowLength
        titleOffset := within_literal
        originX := ((hc.width.sub htotal).div_natCast).mono
        originY := (hc.height.mul within_fraction).mono }
  · have htotal := within_extent hp.labels hs.process.columnBoxHeight hs.process.columnArrowLength
    exact
      { boxWidth := hs.process.columnBoxWidth
        boxHeight := hs.process.columnBoxHeight
        arrowLength := hs.process.columnArrowLength
        titleOffset := within_literal
        originX := ((hc.width.sub hs.process.columnBoxWidth).div_natCast).mono
        originY := ((hc.height.sub htotal).div_natCast).mono }

/-- An arrow of five places, each of which is its start or at a measure from there. -/
theorem defined_rightArrow {x y length : α} (hx : Within 400 x) (hy : Within 400 y)
    (hl : Within 64 length) : (rightArrow x y length).Defined := by
  have hstart := (hx.add (within_literal (n := 5))).isFinite
  have htip := ((hx.add hl).sub (within_literal (n := 5))).isFinite
  have hbarb := ((hx.add hl).sub (within_literal (n := 12))).isFinite
  have hy' := hy.isFinite
  have hlow := (hy.sub (within_literal (n := 7))).isFinite
  have hhigh := (hy.add (within_literal (n := 7))).isFinite
  unfold Path.Defined rightArrow
  simp only [List.forall_mem_cons]
  exact ⟨⟨hstart, hy'⟩, ⟨htip, hy'⟩, ⟨hbarb, hlow⟩, ⟨htip, hy'⟩, ⟨hbarb, hhigh⟩, by simp⟩

/-- The same with the axes exchanged. -/
theorem defined_downArrow {x y length : α} (hx : Within 400 x) (hy : Within 400 y)
    (hl : Within 64 length) : (downArrow x y length).Defined := by
  have hstart := (hy.add (within_literal (n := 5))).isFinite
  have htip := ((hy.add hl).sub (within_literal (n := 5))).isFinite
  have hbarb := ((hy.add hl).sub (within_literal (n := 12))).isFinite
  have hx' := hx.isFinite
  have hlow := (hx.sub (within_literal (n := 7))).isFinite
  have hhigh := (hx.add (within_literal (n := 7))).isFinite
  unfold Path.Defined downArrow
  simp only [List.forall_mem_cons]
  exact ⟨⟨hx', hstart⟩, ⟨hx', htip⟩, ⟨hlow, hbarb⟩, ⟨hx', htip⟩, ⟨hhigh, hbarb⟩, by simp⟩

section Process

variable {f : ProcessFrame α} (hf : f.Bounded)
include hf

/-- The corner of a box. Along one axis it moves with the place of the box, and along the other it is that
    of the origin; which is which makes no difference to the bound. -/
theorem within_corner {i : Nat} (hi : i ≤ 2 ^ 64) :
    Within 150 (f.corner i).1 ∧ Within 150 (f.corner i).2 := by
  have hn := within_natCast (α := α) hi
  unfold ProcessFrame.corner
  split
  · exact ⟨(hf.originX.add (hn.mul (hf.boxWidth.add hf.arrowLength))).mono, hf.originY.mono⟩
  · exact ⟨hf.originX.mono, (hf.originY.add (hn.mul (hf.boxHeight.add hf.arrowLength))).mono⟩

/-- The lines of a description. However long the text, there are at most as many as the settings allow, and
    so the last of them is not too far below its box. -/
theorem defined_description (ht : t.Moderate) {maxLines : Nat} (hmax : maxLines ≤ 2 ^ 64)
    (text : String) {i : Nat} (hi : i ≤ 2 ^ 64) :
    ∀ l ∈ f.description t maxLines text i, l.Defined := by
  obtain ⟨hx, hy⟩ := within_corner hf hi
  unfold ProcessFrame.description
  simp only
  split
  · simp
  · refine forall_mem_indexed fun line _ n hn => ?_
    have hlines : (Text.labelLines text maxLines).length ≤ maxLines := by
      unfold Text.labelLines
      rw [List.length_map]
      exact List.length_take_le _ _
    exact defined_label (hx.add hf.boxWidth.div_natCast).mono
      ((hy.add within_literal).add ((within_natCast (by omega)).mul within_literal)).mono
      ht.smallFontSize.mono

theorem defined_step (ht : t.Moderate) {maxLines : Nat} (hmax : maxLines ≤ 2 ^ 64)
    (descriptions : List String) (label : String) {i : Nat} (hi : i ≤ 2 ^ 64) :
    (f.step p t maxLines descriptions label i).Defined := by
  obtain ⟨hx, hy⟩ := within_corner hf hi
  exact
    { x := hx.isFinite
      y := hy.isFinite
      width := hf.boxWidth.isFinite
      height := hf.boxHeight.isFinite
      title := defined_label (hx.add hf.boxWidth.div_natCast).mono (hy.add hf.titleOffset).mono
        (ht.fontSize.add within_literal).mono
      description := defined_description hf ht hmax _ hi }

/-- An arrow from the far edge of its box. -/
theorem defined_arrow {i : Nat} (hi : i ≤ 2 ^ 64) : (f.arrow i).Defined := by
  obtain ⟨hx, hy⟩ := within_corner hf hi
  unfold ProcessFrame.arrow
  simp only
  split
  · exact defined_rightArrow (hx.add hf.boxWidth).mono (hy.add hf.boxHeight.div_natCast).mono
      hf.arrowLength
  · exact defined_downArrow (hx.add hf.boxWidth.div_natCast).mono
      (hy.add hf.boxHeight).mono hf.arrowLength

end Process

/-- **Process diagrams of moderate plans are defined.** -/
theorem defined_processLayout (hp : p.Moderate) (ht : t.Moderate) (hs : s.Moderate) :
    (processLayout p t s).Defined := by
  unfold processLayout
  split
  · exact defined_insufficient hs _ _
  have hf := bounded_processFrame hp hs
  exact defined_chartLayout ht hs (d := .process _)
    { cornerRadius := hs.process.cornerRadius.isFinite
      steps := forall_mem_indexed fun label _ i hi =>
        defined_step hf ht hs.process.maxDescriptionLines _ label (hi.le.trans hp.labels)
      arrows := forall_mem_range fun i hi => defined_arrow hf (by
        have hlabels := hp.labels
        omega) }

/-! ## Timelines -/

/-- A segment between places of moderate size. -/
structure Segment.Bounded (a : Segment α) : Prop where
  x₁ : Within 65 a.x₁
  y₁ : Within 65 a.y₁
  x₂ : Within 65 a.x₂
  y₂ : Within 65 a.y₂

theorem bounded_timelineAxis {canvas : Canvas α} (hc : canvas.Moderate) (o : Chart.Orientation) :
    (timelineAxis o canvas).Bounded := by
  cases o with
  | vertical =>
    have hx := (hc.width.div_natCast (n := 4)).mono (k := 65)
    exact ⟨hx, (within_literal (n := 80)).mono, hx, hc.height.sub (within_literal (n := 50))⟩
  | horizontal =>
    have hy := (hc.height.div_natCast (n := 2)).mono (k := 65)
    exact ⟨(within_literal (n := 50)).mono, hy, hc.width.sub (within_literal (n := 50)), hy⟩

/-- The distance of two events. A single event has no neighbour and the length of the axis stands in for
    the distance, so there is no division by zero. -/
theorem within_timelineSpacing {axis : Segment α} (ha : axis.Bounded) (o : Chart.Orientation)
    {count : Nat} (hcount : count ≤ 2 ^ 64) : Within 66 (timelineSpacing o axis count) := by
  have hspread {length : α} (hlength : Within 66 length) :
      Within 66 (if 1 < count then length / ((count - 1 : Nat) : α) else length) := by
    split
    · exact hlength.div_natCast (by omega) (by omega)
    · exact hlength
  cases o with
  | vertical => exact hspread (ha.y₂.sub ha.y₁)
  | horizontal => exact hspread (ha.x₂.sub ha.x₁)

section Events

variable (ht : t.Moderate) {x y : α} (hx : Within 200 x) (hy : Within 200 y)
include ht hx hy

/-- An event on a vertical axis: the date on one side of the dot and the other texts on the other. -/
theorem defined_columnEvent (m : TimelineSettings α) (color date title : String)
    (description : Option String) : (columnEvent m t color date title description x y).Defined := by
  have hgap : Within 64 (textGap : α) := within_literal
  have hleft := (hx.sub hgap).mono (k := 500)
  have hright := (hx.add hgap).mono (k := 500)
  have hy' := hy.mono (k := 500)
  have hheading := (ht.fontSize.add (within_literal (n := 2))).mono (k := 500)
  exact
    { x := hx.isFinite
      y := hy.isFinite
      date := defined_label hleft hy' hheading
      title := defined_label hright hy' hheading
      description := by
        intro l hl
        obtain ⟨text, -, rfl⟩ := Option.map_eq_some_iff.1 hl
        exact defined_label hright (hy.add within_literal).mono ht.fontSize.mono
      connector := by
        intro c hc
        cases hc }

/-- An event on a horizontal axis. Whether its texts stand above or below, they are at the same distance, so
    the two sides are told apart once for the texts and once for the end of the connector. -/
theorem defined_rowEvent {m : TimelineSettings α} (hm : m.Moderate) (color date title : String)
    (description : Option String) (above : Bool) :
    (rowEvent m t color date title description x y above).Defined := by
  have hx' := hx.mono (k := 500)
  have hy' := hy.mono (k := 500)
  have htext : Within 201 (if above then y - m.labelOffset else y + m.labelOffset) := by
    split
    · exact hy.sub hm.labelOffset
    · exact hy.add hm.labelOffset
  have hend : Within 201 (if above then y - m.connectorLength else y + m.connectorLength) := by
    split
    · exact hy.sub hm.connectorLength
    · exact hy.add hm.connectorLength
  exact
    { x := hx.isFinite
      y := hy.isFinite
      date := defined_label hx' (htext.sub within_literal).mono ht.fontSize.mono
      title := defined_label hx' htext.mono (ht.fontSize.add within_literal).mono
      description := by
        intro l hl
        obtain ⟨text, -, rfl⟩ := Option.map_eq_some_iff.1 hl
        exact defined_label hx' (htext.add within_literal).mono ht.fontSize.mono
      connector := by
        intro c hc
        obtain rfl := Option.some.inj hc
        exact defined_segment hx' hy' hx' hend.mono }

end Events

/-- **Timelines of moderate plans are defined.** -/
theorem defined_timelineLayout (hp : p.Moderate) (ht : t.Moderate) (hs : s.Moderate) :
    (timelineLayout p t s).Defined := by
  unfold timelineLayout
  split
  · exact defined_insufficient hs _ _
  have haxis := bounded_timelineAxis (hs.canvas .timeline) p.orientation
  have hspacing := within_timelineSpacing haxis p.orientation hp.labels
  refine defined_chartLayout ht hs (d := .timeline _)
    { axis := defined_segment haxis.x₁.mono haxis.y₁.mono haxis.x₂.mono haxis.y₂.mono
      axisWidth := hs.timeline.axisWidth.isFinite
      dotRadius := hs.timeline.dotRadius.isFinite
      events := forall_mem_indexed fun label _ i hi => ?_ }
  have hstep := (within_natCast (α := α) (hi.le.trans hp.labels)).mul hspacing
  simp only
  split
  · exact defined_columnEvent ht haxis.x₁.mono (haxis.y₁.add hstep).mono _ _ _ _ _
  · exact defined_rowEvent ht (haxis.x₁.add hstep).mono haxis.y₁.mono hs.timeline _ _ _ _ _

end Infochart.Layout
