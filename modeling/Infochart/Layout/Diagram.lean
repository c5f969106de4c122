import Infochart.Layout.Path
import Infochart.Chart.Kind

/-!
# Diagrams

What a layout consists of: labels, segments, bars, slices and points with their places on the canvas.
A diagram holds everything that is drawn except for the colors and fonts that are the same all over.

Beside its shape a mark keeps what it stands for: its value, its series and category, the angles of a
slice. None of this is drawn, but with it the geometry of a diagram can be compared with the data without
going back to the description. The numbers are a parameter, so that the same diagram is laid out
in 64 bits to be drawn, and over an exact field where distances and ratios are spoken of.
-/

namespace Infochart

namespace Layout

open Chart (Kind Orientation)

inductive Anchor where
  | start
  | middle
  | «end»
  deriving DecidableEq, Repr

def Anchor.name : Anchor → String
  | .start => "start"
  | .middle => "middle"
  | .end => "end"

/-- A text at a place. Without a color of its own it has that of all texts. -/
structure Label (α : Type) where
  x : α
  y : α
  text : String
  size : α
  anchor : Anchor := .middle
  bold : Bool := false
  /-- Whether the middle of the letters lies at the place, and not their base line. -/
  centered : Bool := false
  color : Option String := none
  deriving Repr

structure Segment (α : Type) where
  x₁ : α
  y₁ : α
  x₂ : α
  y₂ : α
  deriving Repr

structure Area (α : Type) where
  left : α
  top : α
  width : α
  height : α
  deriving Repr

def Area.right {α : Type} [Scale α] (a : Area α) : α :=
  a.left + a.width

def Area.bottom {α : Type} [Scale α] (a : Area α) : α :=
  a.top + a.height

structure LegendItem (α : Type) where
  x : α
  y : α
  width : α
  height : α
  color : String
  label : Label α
  deriving Repr

/-- A value on the axis, with a mark beside the axis and a line across the whole plot. -/
structure Tick (α : Type) where
  value : α
  mark : Segment α
  gridline : Segment α
  label : Label α
  deriving Repr

/-- A bar with the series and the category that it stands for. -/
structure Bar (α : Type) where
  series : Nat
  category : Nat
  x : α
  y : α
  width : α
  height : α
  value : α
  color : String
  label : Label α
  deriving Repr

structure BarChart (α : Type) where
  orientation : Orientation
  plot : Area α
  maxValue : α
  bars : List (Bar α)
  categories : List (Label α)
  ticks : List (Tick α)
  legend : List (LegendItem α)
  deriving Repr

/-- A slice of a pie. Angles grow clockwise from three o'clock. -/
structure Slice (α : Type) where
  label : String
  value : α
  percent : α
  startAngle : α
  endAngle : α
  largeArc : Bool
  color : String
  path : Path α
  percentLabel : Label α
  deriving Repr

def Slice.sweep {α : Type} [Scale α] (s : Slice α) : α :=
  s.endAngle - s.startAngle

structure PieChart (α : Type) where
  center : α × α
  radius : α
  total : α
  slices : List (Slice α)
  legend : List (LegendItem α)
  deriving Repr

structure LinePoint (α : Type) where
  x : α
  y : α
  value : α
  label : Label α
  deriving Repr

structure LineSeries (α : Type) where
  name : String
  color : String
  path : Path α
  points : List (LinePoint α)
  deriving Repr

structure LineChart (α : Type) where
  plot : Area α
  minValue : α
  maxValue : α
  strokeWidth : α
  pointRadius : α
  series : List (LineSeries α)
  categories : List (Label α)
  marks : List (Segment α)
  ticks : List (Tick α)
  legend : List (LegendItem α)
  deriving Repr

/-- A ring of a radar chart; the outermost one has no label. -/
structure Ring (α : Type) where
  radius : α
  label : Option (Label α)
  deriving Repr

structure Axis (α : Type) where
  angle : α
  spoke : Segment α
  label : Label α
  deriving Repr

/-- A point on an axis of a radar chart, at a share of its length. -/
structure RadarPoint (α : Type) where
  x : α
  y : α
  value : α
  ratio : α
  label : Label α
  deriving Repr

structure RadarSeries (α : Type) where
  name : String
  color : String
  path : Path α
  points : List (RadarPoint α)
  deriving Repr

structure RadarChart (α : Type) where
  center : α × α
  radius : α
  maxValue : α
  fillOpacity : α
  pointRadius : α
  rings : List (Ring α)
  axes : List (Axis α)
  series : List (RadarSeries α)
  legend : List (LegendItem α)
  deriving Repr

structure Step (α : Type) where
  x : α
  y : α
  width : α
  height : α
  color : String
  title : Label α
  description : List (Label α)
  deriving Repr

structure ProcessDiagram (α : Type) where
  orientation : Orientation
  cornerRadius : α
  steps : List (Step α)
  arrows : List (Path α)
  deriving Repr

/-- An event of a timeline. An empty title is kept as a label, and it is the drawing that leaves it out;
    a description is there or not already in the layout. -/
structure Event (α : Type) where
  x : α
  y : α
  color : String
  date : Label α
  title : Label α
  description : Option (Label α)
  connector : Option (Segment α)
  deriving Repr

structure Timeline (α : Type) where
  orientation : Orientation
  axis : Segment α
  axisWidth : α
  dotRadius : α
  events : List (Event α)
  deriving Repr

/-- The two bars of one category, which grow from the middle to both sides. -/
structure Group (α : Type) where
  category : Label α
  left : Bar α
  right : Bar α
  deriving Repr

structure ComparisonChart (α : Type) where
  divider : Segment α
  maxValue : α
  leftName : Label α
  rightName : Label α
  groups : List (Group α)
  deriving Repr

inductive Reason where
  /-- A kind of chart lacks what it requires. -/
  | insufficient (kind : Kind) (requirement : String)
  /-- The type, as far as one was given, names no kind of chart. -/
  | unsupported (shown : String)
  deriving DecidableEq, Repr

def Reason.message : Reason → String
  | .insufficient _ requirement => "Insufficient data: " ++ requirement
  | .unsupported shown => "Unsupported visualization type: '" ++ shown ++ "'"

structure Placeholder (α : Type) where
  reason : Reason
  x : α
  y : α
  width : α
  height : α
  deriving Repr

inductive Diagram (α : Type) where
  | bar (chart : BarChart α)
  | pie (chart : PieChart α)
  | line (chart : LineChart α)
  | radar (chart : RadarChart α)
  | process (diagram : ProcessDiagram α)
  | timeline (timeline : Timeline α)
  | comparison (chart : ComparisonChart α)
  | placeholder (box : Placeholder α)
  deriving Repr

end Layout

structure Layout (α : Type) where
  kind : Option Chart.Kind
  width : α
  height : α
  title : Option (Layout.Label α)
  diagram : Layout.Diagram α
  deriving Repr

def Layout.isPlaceholder {α : Type} (l : Layout α) : Bool :=
  match l.diagram with
  | .placeholder _ => true
  | _ => false

end Infochart
