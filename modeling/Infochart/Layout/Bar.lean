import Infochart.Layout.Parts

/-!
# Bar charts

The bars of a category stand side by side around its middle, and all bars are measured by the greatest
amount of all series. Amounts that are not positive have bars without length.
-/

namespace Infochart.Layout

open Chart (Orientation)

/-- The measures that all bars of a chart have in common. -/
structure BarFrame (α : Type) where
  orientation : Orientation
  plot : Area α
  maxValue : α
  /-- The extent of a category along the axis of categories. -/
  spacing : α
  /-- The extent of a bar along the axis of categories. -/
  thickness : α
  seriesCount : Nat
  deriving Repr

variable {α : Type} [Scale α]

/-- The extent of the plot along the axis of categories. -/
def Area.along (plot : Area α) : Orientation → α
  | .vertical => plot.width
  | .horizontal => plot.height

/-- The extent of the plot along the axis of values. -/
def Area.across (plot : Area α) : Orientation → α
  | .vertical => plot.height
  | .horizontal => plot.width

def BarSettings.cap (s : BarSettings α) : Orientation → α
  | .vertical => s.maxWidth
  | .horizontal => s.maxThickness

def BarFrame.of (p : Plan α) (s : Settings α) : BarFrame α :=
  let plot := plotArea (s.canvas .bar) s.margin
  let series := p.datasets 5
  let spacing := plot.along p.orientation / (p.labels.length : α)
  { orientation := p.orientation
    plot := plot
    maxValue := scaleMax (series.flatMap Series.amounts)
    spacing := spacing
    thickness := lesser (s.bar.cap p.orientation) (spacing * s.bar.fillRatio)
    seriesCount := series.length }

namespace BarFrame

/-- How far the middle of a bar is from the start of the plot. -/
def center (f : BarFrame α) (series category : Nat) : α :=
  ((category : α) + half) * f.spacing
    + ((series : α) - (f.seriesCount : α) / 2 + half) * f.thickness

def length (f : BarFrame α) (value : α) : α :=
  greater (value / f.maxValue) 0 * f.plot.across f.orientation

variable [Written α]

def bar (f : BarFrame α) (t : Theme α) (color : String) (series category : Nat) (value : α) : Bar α :=
  let length := f.length value
  let text := Written.amount value
  match f.orientation with
  | .vertical =>
    let x := f.plot.left + f.center series category - f.thickness / 2
    let y := f.plot.bottom - length
    { series := series, category := category, x := x, y := y, width := f.thickness
      height := length, value := value, color := color
      label := { x := x + f.thickness / 2, y := y - 5, text := text, size := t.fontSize } }
  | .horizontal =>
    let y := f.plot.top + f.center series category - f.thickness / 2
    { series := series, category := category, x := f.plot.left, y := y, width := length
      height := f.thickness, value := value, color := color
      label :=
        { x := f.plot.left + length + 5, y := y + f.thickness / 2, text := text
          size := t.fontSize, anchor := .start, centered := true } }

/-- The bars of a series, one for each category that it has an amount for. -/
def seriesBars (f : BarFrame α) (t : Theme α) (color : String) (series categories : Nat)
    (values : List α) : List (Bar α) :=
  (values.take categories).zipIdx.map fun (value, category) => f.bar t color series category value

def categoryLabel (f : BarFrame α) (t : Theme α) (text : String) (i : Nat) : Label α :=
  let position := ((i : α) + half) * f.spacing
  match f.orientation with
  | .vertical =>
    { x := f.plot.left + position, y := f.plot.bottom + 20, text := text, size := t.fontSize }
  | .horizontal =>
    { x := f.plot.left - 10, y := f.plot.top + position, text := text, size := t.fontSize
      anchor := .end, centered := true }

/-- The place of a row of the legend: below one another in upright charts, and side by side above the
    plot in the others. -/
def legendPlace (f : BarFrame α) (s : BarSettings α) (i : Nat) : α × α :=
  match f.orientation with
  | .vertical => (f.plot.right - 150, f.plot.top + (i : α) * s.legendSpacing)
  | .horizontal => (f.plot.left + 100 + (i : α) * 120, f.plot.top - 30)

end BarFrame

variable [Written α]

/-- The layout of a bar chart. It takes labels and at least one dataset. -/
def barLayout (p : Plan α) (t : Theme α) (s : Settings α) : Layout α :=
  let series := p.datasets 5
  if p.labels.isEmpty || series.isEmpty then
    insufficient .bar "labels (601) and at least one dataset (701-705) are required" s
  else
    let f := BarFrame.of p s
    let row (i : Nat) : LegendItem α :=
      let (x, y) := f.legendPlace s.bar i
      legendItem x y s.bar.legendSwatch s.bar.legendSwatch (p.color i) (p.seriesName i) t
    chartLayout p .bar t s <| .bar
      { orientation := f.orientation
        plot := f.plot
        maxValue := f.maxValue
        bars := series.zipIdx.flatMap fun (d, i) =>
          f.seriesBars t (p.color i) i p.labels.length d.amounts
        categories := p.labels.zipIdx.map fun (text, i) => f.categoryLabel t text i
        ticks := valueTicks f.plot f.orientation 0 f.maxValue s.tickCount t
        legend := if 1 < series.length then (List.range series.length).map row else [] }

end Infochart.Layout
