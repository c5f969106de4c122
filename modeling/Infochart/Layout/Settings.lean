import Infochart.Chart.Kind
import Infochart.Layout.Scale

/-!
# Layout settings

The measures by which charts are laid out, with a canvas for each kind of chart.

These are the measures that a settings file can change; smaller distances, such as that of a label from its
mark, are part of the layouts. Most sizes are not tied to the canvas. A box or a circle is as large as it
says here, and whether it fits is a question about a chart and its settings together.
-/

namespace Infochart.Layout

open Chart (Kind)

structure Canvas (α : Type) where
  width : α
  height : α
  deriving Repr

structure BarSettings (α : Type) where
  maxWidth : α
  maxThickness : α
  fillRatio : α
  legendSwatch : α
  legendSpacing : α
  deriving Repr

structure PieSettings (α : Type) where
  radius : α
  labelRadiusRatio : α
  legendSpacing : α
  legendSwatch : α
  deriving Repr

structure LineSettings (α : Type) where
  pointRadius : α
  strokeWidth : α
  legendSpacing : α
  deriving Repr

structure RadarSettings (α : Type) where
  radius : α
  rings : Nat
  fillOpacity : α
  pointRadius : α
  labelOffset : α
  legendSpacing : α
  deriving Repr

/-- Measures of process diagrams, in a row and in a column. -/
structure ProcessSettings (α : Type) where
  boxWidth : α
  boxHeight : α
  arrowLength : α
  columnBoxWidth : α
  columnBoxHeight : α
  columnArrowLength : α
  cornerRadius : α
  maxDescriptionLines : Nat
  deriving Repr

structure TimelineSettings (α : Type) where
  columnDescriptionChars : Nat
  rowDescriptionChars : Nat
  dotRadius : α
  axisWidth : α
  labelOffset : α
  connectorLength : α
  deriving Repr

structure ComparisonSettings (α : Type) where
  barHeight : α
  groupGap : α
  barGap : α
  centerGap : α
  deriving Repr

structure Settings (α : Type) where
  canvas : Kind → Canvas α
  margin : α
  tickCount : Nat
  defaultColorScheme : String
  bar : BarSettings α
  pie : PieSettings α
  line : LineSettings α
  radar : RadarSettings α
  process : ProcessSettings α
  timeline : TimelineSettings α
  comparison : ComparisonSettings α

variable {α : Type} [Scale α]

/-- The canvas of a chart whose size nobody has changed. -/
def Canvas.standard : Kind → Canvas α
  | .radar => ⟨800, 600⟩
  | .process => ⟨800, 400⟩
  | _ => ⟨800, 500⟩

/-- The measures that hold where nothing else is said. -/
def Settings.standard : Settings α where
  canvas := Canvas.standard
  margin := 60
  tickCount := 5
  defaultColorScheme := "corporate"
  bar :=
    { maxWidth := 50
      maxThickness := 40
      fillRatio := 4 / 5
      legendSwatch := 15
      legendSpacing := 25 }
  pie :=
    { radius := 150
      labelRadiusRatio := 7 / 10
      legendSpacing := 30
      legendSwatch := 15 }
  line :=
    { pointRadius := 4
      strokeWidth := 2
      legendSpacing := 25 }
  radar :=
    { radius := 200
      rings := 5
      fillOpacity := 7 / 10
      pointRadius := 4
      labelOffset := 20
      legendSpacing := 30 }
  process :=
    { boxWidth := 120
      boxHeight := 80
      arrowLength := 40
      columnBoxWidth := 200
      columnBoxHeight := 60
      columnArrowLength := 30
      cornerRadius := 5
      maxDescriptionLines := 2 }
  timeline :=
    { columnDescriptionChars := 40
      rowDescriptionChars := 25
      dotRadius := 8
      axisWidth := 4
      labelOffset := 70
      connectorLength := 40 }
  comparison :=
    { barHeight := 30
      groupGap := 40
      barGap := 10
      centerGap := 20 }

/-- The settings with another canvas for one kind of chart. -/
def Settings.setCanvas (s : Settings α) (kind : Kind) (canvas : Canvas α) : Settings α :=
  { s with canvas := fun k => if k = kind then canvas else s.canvas k }

end Infochart.Layout
