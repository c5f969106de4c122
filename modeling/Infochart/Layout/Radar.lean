import Infochart.Layout.Parts

/-!
# Radar charts

The axes start in the middle of the canvas, the first one upwards and the others clockwise at equal
angles. A point lies on its axis at the share that its amount has of the greatest one.
-/

namespace Infochart.Layout

variable {α : Type} [Scale α]

/-- The measures that all parts of a chart have in common. -/
structure RadarFrame (α : Type) where
  centerX : α
  centerY : α
  radius : α
  maxValue : α
  axisCount : Nat
  deriving Repr

/-- The series of a radar chart: the first dataset and, if it has an entry, the second. -/
def radarSeries (p : Plan α) : List (Series α) :=
  match p.filled? 1 with
  | none => []
  | some first => first :: (p.filled? 2).toList

def RadarFrame.of (p : Plan α) (s : Settings α) : RadarFrame α :=
  let canvas := s.canvas .radar
  { centerX := canvas.width / 2
    centerY := canvas.height / 2
    radius := s.radar.radius
    maxValue := scaleMax ((radarSeries p).flatMap Series.amounts)
    axisCount := p.labels.length }

namespace RadarFrame

def angle (f : RadarFrame α) (i : Nat) : α :=
  (i : α) * (2 * Scale.pi / (f.axisCount : α)) - Scale.pi / 2

/-- The share of the greatest amount that an amount has. -/
def ratio (f : RadarFrame α) (value : α) : α :=
  clampUnit (value / f.maxValue)

def axis (f : RadarFrame α) (s : RadarSettings α) (t : Theme α) (text : String) (i : Nat) : Axis α :=
  let angle := f.angle i
  let reach := f.radius + s.labelOffset
  { angle := angle
    spoke := ⟨f.centerX, f.centerY,
      f.centerX + f.radius * Scale.cos angle, f.centerY + f.radius * Scale.sin angle⟩
    label :=
      { x := f.centerX + reach * Scale.cos angle, y := f.centerY + reach * Scale.sin angle
        text := numberedIfEmpty "Axis" text i, size := t.fontSize, centered := true } }

/-- The point of a series on an axis; a missing entry counts as zero and has no text. -/
def point (f : RadarFrame α) (t : Theme α) (color : String) (d : Series α) (i : Nat) :
    RadarPoint α :=
  let entry := d.entries[i]?
  let value := (entry.map Entry.amount).getD 0
  let ratio := f.ratio value
  let x := f.centerX + ratio * f.radius * Scale.cos (f.angle i)
  let y := f.centerY + ratio * f.radius * Scale.sin (f.angle i)
  { x := x, y := y, value := value, ratio := ratio
    label :=
      { x := x, y := y - 10, text := (entry.map Entry.text).getD "", size := t.smallFontSize
        color := some color } }

def series (f : RadarFrame α) (t : Theme α) (name color : String) (d : Series α) : RadarSeries α :=
  let points := (List.range f.axisCount).map (f.point t color d)
  { name := name
    color := color
    path := Path.polyline (points.map fun q => (q.x, q.y)) true
    points := points }

variable [Written α]

/-- A ring, counted from one. The outermost is the tip of the axes and has no label. -/
def ring (f : RadarFrame α) (t : Theme α) (labels : List String) (count i : Nat) : Ring α :=
  let radius := f.radius * (i : α) / (count : α)
  { radius := radius
    label :=
      if i < count then
        some
          { x := f.centerX, y := f.centerY - radius - 5
            text := labels[i - 1]?.getD (Written.rounded 0 (f.maxValue * (i : α) / (count : α)))
            size := t.smallFontSize }
      else none }

end RadarFrame

variable [Written α]

/-- The layout of a radar chart. It takes labels and the first dataset. -/
def radarLayout (p : Plan α) (t : Theme α) (s : Settings α) : Layout α :=
  let datasets := radarSeries p
  if p.labels.isEmpty || datasets.isEmpty then
    insufficient .radar "axis labels (601) and at least one dataset (701) are required" s
  else
    let f := RadarFrame.of p s
    let ringCount := max s.radar.rings 1
    let series := datasets.zipIdx.map fun (d, i) => f.series t (p.seriesName i) (p.color i) d
    let row (e : RadarSeries α) (i : Nat) : LegendItem α :=
      legendItem ((s.canvas .radar).width - 150) (100 + (i : α) * s.radar.legendSpacing) 15 15
        e.color e.name t
    chartLayout p .radar t s <| .radar
      { center := (f.centerX, f.centerY)
        radius := f.radius
        maxValue := f.maxValue
        fillOpacity := s.radar.fillOpacity
        pointRadius := s.radar.pointRadius
        rings := (List.range' 1 ringCount).map (f.ring t p.scaleLabels ringCount)
        axes := p.labels.zipIdx.map fun (text, i) => f.axis s.radar t text i
        series := series
        legend := if 1 < series.length then series.zipIdx.map fun (e, i) => row e i else [] }

end Infochart.Layout
