import Infochart.Layout.Compute

/-!
# Layouts without undefined numbers

A layout is defined if each of its numbers is finite: coordinates, sizes, radii, angles, shares, the
values behind bars, slices and points, and the steps of the axes. There is one structure for each part of
a layout, with a field for each number or part of it.

The fields have the names of those they speak of, so a lemma about a drawing takes what it writes by name,
and a part that gets another number gets another field here, while nothing changes for the other parts.
Texts, colors and places among the data are not numbers of a layout and are left out.

A sum or a difference of finite numbers need not be finite. So where a result is used again, it stands
beside the numbers that it is computed from: the right edge of an area, the sweep of a slice, the middle of
the box in place of a chart.
-/

namespace Infochart
namespace Layout

variable {α : Type} [Scale α]

/-- Whether a number is finite. This is the test that layouts branch on themselves, so a branch that a
    layout has taken can be used as it is. -/
def IsDefined (x : α) : Prop :=
  Scale.isFinite x = true

instance (x : α) : Decidable (IsDefined x) :=
  inferInstanceAs (Decidable (Scale.isFinite x = true))

structure Label.Defined (l : Label α) : Prop where
  x : IsDefined l.x
  y : IsDefined l.y
  size : IsDefined l.size

structure Segment.Defined (s : Segment α) : Prop where
  x₁ : IsDefined s.x₁
  y₁ : IsDefined s.y₁
  x₂ : IsDefined s.x₂
  y₂ : IsDefined s.y₂

/-- The edges on the far side are sums, which may be out of range when the rest is not. -/
structure Area.Defined (a : Area α) : Prop where
  left : IsDefined a.left
  top : IsDefined a.top
  width : IsDefined a.width
  height : IsDefined a.height
  right : IsDefined a.right
  bottom : IsDefined a.bottom

/-- The two edges that are drawn as axes. -/
theorem Area.Defined.leftEdge {a : Area α} (h : a.Defined) :
    Segment.Defined ⟨a.left, a.top, a.left, a.bottom⟩ :=
  ⟨h.left, h.top, h.left, h.bottom⟩

theorem Area.Defined.bottomEdge {a : Area α} (h : a.Defined) :
    Segment.Defined ⟨a.left, a.bottom, a.right, a.bottom⟩ :=
  ⟨h.left, h.bottom, h.right, h.bottom⟩

/-- The numbers of a pen movement. The flag of an arc is not one of them, and closing a figure has none. -/
def Move.Defined : Move α → Prop
  | .moveTo x y => IsDefined x ∧ IsDefined y
  | .lineTo x y => IsDefined x ∧ IsDefined y
  | .arcTo radius _ x y => IsDefined radius ∧ IsDefined x ∧ IsDefined y
  | .close => True

def Path.Defined (p : Path α) : Prop :=
  ∀ m ∈ p.moves, m.Defined

structure LegendItem.Defined (i : LegendItem α) : Prop where
  x : IsDefined i.x
  y : IsDefined i.y
  width : IsDefined i.width
  height : IsDefined i.height
  label : i.label.Defined

structure Tick.Defined (t : Tick α) : Prop where
  value : IsDefined t.value
  mark : t.mark.Defined
  gridline : t.gridline.Defined
  label : t.label.Defined

/-- The value of a bar is the amount itself, which no scale has made smaller. -/
structure Bar.Defined (b : Bar α) : Prop where
  x : IsDefined b.x
  y : IsDefined b.y
  width : IsDefined b.width
  height : IsDefined b.height
  value : IsDefined b.value
  label : b.label.Defined

structure BarChart.Defined (c : BarChart α) : Prop where
  plot : c.plot.Defined
  maxValue : IsDefined c.maxValue
  bars : ∀ b ∈ c.bars, b.Defined
  categories : ∀ l ∈ c.categories, l.Defined
  ticks : ∀ k ∈ c.ticks, k.Defined
  legend : ∀ i ∈ c.legend, i.Defined

/-- The sweep is the difference of the two angles, from which an outline is told to be a full turn. -/
structure Slice.Defined (s : Slice α) : Prop where
  value : IsDefined s.value
  percent : IsDefined s.percent
  startAngle : IsDefined s.startAngle
  endAngle : IsDefined s.endAngle
  sweep : IsDefined s.sweep
  path : s.path.Defined
  percentLabel : s.percentLabel.Defined

structure PieChart.Defined (c : PieChart α) : Prop where
  centerX : IsDefined c.center.1
  centerY : IsDefined c.center.2
  radius : IsDefined c.radius
  total : IsDefined c.total
  slices : ∀ s ∈ c.slices, s.Defined
  legend : ∀ i ∈ c.legend, i.Defined

structure LinePoint.Defined (q : LinePoint α) : Prop where
  x : IsDefined q.x
  y : IsDefined q.y
  value : IsDefined q.value
  label : q.label.Defined

structure LineSeries.Defined (s : LineSeries α) : Prop where
  path : s.path.Defined
  points : ∀ q ∈ s.points, q.Defined

/-- Both ends of the scale are finite whenever the amounts are. Their distance is not a number of the
    layout; where it is out of range, that shows in the ticks. -/
structure LineChart.Defined (c : LineChart α) : Prop where
  plot : c.plot.Defined
  minValue : IsDefined c.minValue
  maxValue : IsDefined c.maxValue
  strokeWidth : IsDefined c.strokeWidth
  pointRadius : IsDefined c.pointRadius
  series : ∀ s ∈ c.series, s.Defined
  categories : ∀ l ∈ c.categories, l.Defined
  marks : ∀ m ∈ c.marks, m.Defined
  ticks : ∀ k ∈ c.ticks, k.Defined
  legend : ∀ i ∈ c.legend, i.Defined

structure Ring.Defined (r : Ring α) : Prop where
  radius : IsDefined r.radius
  label : ∀ l ∈ r.label, l.Defined

structure Axis.Defined (a : Axis α) : Prop where
  angle : IsDefined a.angle
  spoke : a.spoke.Defined
  label : a.label.Defined

structure RadarPoint.Defined (q : RadarPoint α) : Prop where
  x : IsDefined q.x
  y : IsDefined q.y
  value : IsDefined q.value
  ratio : IsDefined q.ratio
  label : q.label.Defined

structure RadarSeries.Defined (s : RadarSeries α) : Prop where
  path : s.path.Defined
  points : ∀ q ∈ s.points, q.Defined

structure RadarChart.Defined (c : RadarChart α) : Prop where
  centerX : IsDefined c.center.1
  centerY : IsDefined c.center.2
  radius : IsDefined c.radius
  maxValue : IsDefined c.maxValue
  fillOpacity : IsDefined c.fillOpacity
  pointRadius : IsDefined c.pointRadius
  rings : ∀ r ∈ c.rings, r.Defined
  axes : ∀ a ∈ c.axes, a.Defined
  series : ∀ s ∈ c.series, s.Defined
  legend : ∀ i ∈ c.legend, i.Defined

structure Step.Defined (s : Step α) : Prop where
  x : IsDefined s.x
  y : IsDefined s.y
  width : IsDefined s.width
  height : IsDefined s.height
  title : s.title.Defined
  description : ∀ l ∈ s.description, l.Defined

structure ProcessDiagram.Defined (d : ProcessDiagram α) : Prop where
  cornerRadius : IsDefined d.cornerRadius
  steps : ∀ s ∈ d.steps, s.Defined
  arrows : ∀ a ∈ d.arrows, a.Defined

structure Event.Defined (e : Event α) : Prop where
  x : IsDefined e.x
  y : IsDefined e.y
  date : e.date.Defined
  title : e.title.Defined
  description : ∀ l ∈ e.description, l.Defined
  connector : ∀ c ∈ e.connector, c.Defined

structure Timeline.Defined (l : Timeline α) : Prop where
  axis : l.axis.Defined
  axisWidth : IsDefined l.axisWidth
  dotRadius : IsDefined l.dotRadius
  events : ∀ e ∈ l.events, e.Defined

structure Group.Defined (g : Group α) : Prop where
  category : g.category.Defined
  left : g.left.Defined
  right : g.right.Defined

structure ComparisonChart.Defined (c : ComparisonChart α) : Prop where
  divider : c.divider.Defined
  maxValue : IsDefined c.maxValue
  leftName : c.leftName.Defined
  rightName : c.rightName.Defined
  groups : ∀ g ∈ c.groups, g.Defined

/-- The box with its middle, where its text stands. The layout does not have the middle; it is computed
    when the box is drawn. -/
structure Placeholder.Defined (b : Placeholder α) : Prop where
  x : IsDefined b.x
  y : IsDefined b.y
  width : IsDefined b.width
  height : IsDefined b.height
  middleX : IsDefined (b.x + b.width / 2)
  middleY : IsDefined (b.y + b.height / 2)

def Diagram.Defined : Diagram α → Prop
  | .bar c => c.Defined
  | .pie c => c.Defined
  | .line c => c.Defined
  | .radar c => c.Defined
  | .process d => d.Defined
  | .timeline l => l.Defined
  | .comparison c => c.Defined
  | .placeholder b => b.Defined

end Layout

/-- Whether the one size that is computed while drawing is finite, that of the text in a box. A box has no
    label that could carry it, so it is a matter of the theme. -/
def Theme.NoticeDefined {α : Type} [Layout.Scale α] (t : Theme α) : Prop :=
  Layout.IsDefined (t.fontSize + 2)

/-- Whether every number of a layout is finite. -/
structure Layout.Defined {α : Type} [Layout.Scale α] (l : Layout α) : Prop where
  width : Layout.IsDefined l.width
  height : Layout.IsDefined l.height
  title : ∀ t ∈ l.title, t.Defined
  diagram : l.diagram.Defined

end Infochart
