import Infochart.Layout.Parts

/-!
# Line charts

The amounts of all series share one scale from the least to the greatest. When all are equal there is
no scale, and the lines run at half the height.
-/

namespace Infochart.Layout

/-- The measures that all lines of a chart have in common. -/
structure LineFrame (α : Type) where
  plot : Area α
  minValue : α
  maxValue : α
  categories : Nat
  deriving Repr

variable {α : Type} [Scale α]

/-- The measures of a plan's chart. Without any amount the scale is at zero. -/
def LineFrame.of (p : Plan α) (s : Settings α) : LineFrame α :=
  let values := (p.datasets 5).flatMap Series.amounts
  { plot := plotArea (s.canvas .line) s.margin
    minValue := (least values).getD 0
    maxValue := (greatest values).getD 0
    categories := p.labels.length }

namespace LineFrame

/-- The place of a category; a single one is in the middle. -/
def xAt (f : LineFrame α) (i : Nat) : α :=
  if 1 < f.categories then
    f.plot.left + (i : α) / ((f.categories - 1 : Nat) : α) * f.plot.width
  else f.plot.left + f.plot.width / 2

/-- The share of the height at which an amount lies. -/
def shareOf (f : LineFrame α) (value : α) : α :=
  let range := f.maxValue - f.minValue
  if 0 < range then (value - f.minValue) / range else half

def yAt (f : LineFrame α) (value : α) : α :=
  f.plot.bottom - f.shareOf value * f.plot.height

def point (f : LineFrame α) (t : Theme α) (e : Entry α) (i : Nat) : LinePoint α :=
  let x := f.xAt i
  let y := f.yAt e.amount
  { x := x, y := y, value := e.amount
    label := { x := x, y := y - 10, text := e.text, size := t.smallFontSize } }

/-- The line of a series, one point for each category that it has an entry for. -/
def series (f : LineFrame α) (t : Theme α) (name color : String) (d : Series α) : LineSeries α :=
  let points := (d.entries.take f.categories).zipIdx.map fun (e, i) => f.point t e i
  { name := name
    color := color
    path := Path.polyline (points.map fun q => (q.x, q.y)) false
    points := points }

end LineFrame

variable [Written α]

/-- The layout of a line chart. It takes labels and at least one dataset. -/
def lineLayout (p : Plan α) (t : Theme α) (s : Settings α) : Layout α :=
  let series := p.datasets 5
  if p.labels.isEmpty || series.isEmpty then
    insufficient .line "labels (601) and at least one dataset (701-705) are required" s
  else
    let f := LineFrame.of p s
    let row (i : Nat) : LegendItem α :=
      let y := f.plot.top + (i : α) * s.line.legendSpacing
      let item := legendItem (f.plot.right - 150) y 15 3 (p.color i) (p.seriesName i) t
      { item with label := { item.label with y := y + 5 } }
    chartLayout p .line t s <| .line
      { plot := f.plot
        minValue := f.minValue
        maxValue := f.maxValue
        strokeWidth := s.line.strokeWidth
        pointRadius := s.line.pointRadius
        series := series.zipIdx.map fun (d, i) => f.series t (p.seriesName i) (p.color i) d
        categories := p.labels.zipIdx.map fun (text, i) =>
          { x := f.xAt i, y := f.plot.bottom + 20, text := text, size := t.fontSize }
        marks := (List.range p.labels.length).map fun i =>
          ⟨f.xAt i, f.plot.bottom, f.xAt i, f.plot.bottom + 5⟩
        ticks := valueTicks f.plot .vertical f.minValue f.maxValue s.tickCount t
        legend := if 1 < series.length then (List.range series.length).map row else [] }

end Infochart.Layout
