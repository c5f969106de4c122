import Infochart.Drawing.Element
import Infochart.Layout.Compute

/-!
# The drawing of a layout

Each part of a layout becomes elements, in the order from the background to the front. Colors come from
the layout where they tell data apart, and from the theme everywhere else.

Places are written with two decimals, measures that come from the settings with all their digits. Texts are
kept as they are here; it is the writer of elements that escapes them. The one exception is the font family,
which stands in an attribute and is escaped where the drawing is put together.
-/

namespace Infochart.Drawing

open Layout

variable {α : Type} [Scale α] [Written α]

/-- A coordinate, with two places. -/
def at2 (name : String) (x : α) : Attribute :=
  ⟨name, Written.places 2 x⟩

/-- A measure, with all its digits. -/
def measure (name : String) (x : α) : Attribute :=
  ⟨name, Written.full x⟩

def segment (s : Segment α) (stroke : String) (width : α) : Element where
  tag := .line
  attributes :=
    [at2 "x1" s.x₁, at2 "y1" s.y₁, at2 "x2" s.x₂, at2 "y2" s.y₂, ⟨"stroke", stroke⟩,
     measure "stroke-width" width]

/-- A point of a line or a radar chart, or an event of a timeline. -/
def dot (x y radius : α) (fill : String) : Element where
  tag := .circle
  attributes := [at2 "cx" x, at2 "cy" y, measure "r" radius, ⟨"fill", fill⟩]

/-- A rectangle, with further attributes behind its place and size. -/
def box (x y width height : α) (more : List Attribute) : Element where
  tag := .rect
  attributes := [at2 "x" x, at2 "y" y, at2 "width" width, at2 "height" height] ++ more

def label (t : Theme α) (l : Label α) : Element where
  tag := .text
  attributes :=
    [at2 "x" l.x, at2 "y" l.y, ⟨"text-anchor", l.anchor.name⟩, measure "font-size" l.size]
      ++ (if l.bold then [⟨"font-weight", "bold"⟩] else [])
      ++ (if l.centered then [⟨"dominant-baseline", "middle"⟩] else [])
      ++ [⟨"fill", l.color.getD t.textColor⟩]
  content := some l.text

/-- Gridlines come before what is drawn on them, so ticks are the first part of a chart. -/
def ticks (t : Theme α) (ts : List (Tick α)) : List Element :=
  ts.flatMap fun k =>
    [segment k.gridline t.gridColor 1, segment k.mark t.axisColor 1, label t k.label]

def axes (t : Theme α) (plot : Area α) : List Element :=
  [segment ⟨plot.left, plot.top, plot.left, plot.bottom⟩ t.axisColor 1,
   segment ⟨plot.left, plot.bottom, plot.right, plot.bottom⟩ t.axisColor 1]

/-- The legend. Where areas are see-through its swatches are, too, or the colors would not match. -/
def legend (t : Theme α) (opacity : Option α) (items : List (LegendItem α)) : List Element :=
  items.flatMap fun i =>
    [box i.x i.y i.width i.height
      (⟨"fill", i.color⟩ :: (opacity.map (measure "fill-opacity")).toList),
     label t i.label]

def bar (t : Theme α) (b : Bar α) : List Element :=
  [box b.x b.y b.width b.height [⟨"fill", b.color⟩], label t b.label]

def barChart (t : Theme α) (c : BarChart α) : List Element :=
  ticks t c.ticks ++ axes t c.plot ++ c.bars.flatMap (bar t) ++ c.categories.map (label t)
    ++ legend t none c.legend

def pieChart (t : Theme α) (c : PieChart α) : List Element :=
  c.slices.map (fun s =>
    { tag := .path
      attributes :=
        [⟨"d", s.path.text⟩, ⟨"fill", s.color⟩, ⟨"stroke", t.background⟩, ⟨"stroke-width", "1"⟩] })
    ++ c.slices.map (fun s => label t s.percentLabel)
    ++ legend t none c.legend

def lineChart (t : Theme α) (c : LineChart α) : List Element :=
  ticks t c.ticks ++ axes t c.plot
    ++ (c.marks.zip c.categories).flatMap (fun (m, l) => [segment m t.axisColor 1, label t l])
    ++ c.series.flatMap (fun s =>
      { tag := .path
        attributes :=
          [⟨"d", s.path.text⟩, ⟨"fill", "none"⟩, ⟨"stroke", s.color⟩,
           measure "stroke-width" c.strokeWidth] }
      :: s.points.flatMap fun p => [dot p.x p.y c.pointRadius s.color, label t p.label])
    ++ legend t none c.legend

def radarChart (t : Theme α) (c : RadarChart α) : List Element :=
  c.rings.flatMap (fun r =>
      { tag := .circle
        attributes :=
          [at2 "cx" c.center.1, at2 "cy" c.center.2, at2 "r" r.radius, ⟨"fill", "none"⟩,
           ⟨"stroke", t.ringColor⟩, ⟨"stroke-width", "1"⟩] }
      :: (r.label.map (label t)).toList)
    ++ c.axes.flatMap (fun a => [segment a.spoke t.spokeColor 1, label t a.label])
    ++ c.series.flatMap (fun s =>
      { tag := .path
        attributes :=
          [⟨"d", s.path.text⟩, ⟨"fill", s.color⟩, measure "fill-opacity" c.fillOpacity,
           ⟨"stroke", s.color⟩, ⟨"stroke-width", "2"⟩] }
      :: s.points.flatMap fun p => [dot p.x p.y c.pointRadius s.color, label t p.label])
    ++ legend t (some c.fillOpacity) c.legend

def processDiagram (t : Theme α) (d : ProcessDiagram α) : List Element :=
  d.steps.flatMap (fun s =>
      box s.x s.y s.width s.height
        [measure "rx" d.cornerRadius, measure "ry" d.cornerRadius, ⟨"fill", s.color⟩]
      :: label t s.title :: s.description.map (label t))
    ++ d.arrows.map fun a =>
      { tag := .path
        attributes :=
          [⟨"d", a.text⟩, ⟨"fill", "none"⟩, ⟨"stroke", t.connectorColor⟩, ⟨"stroke-width", "2"⟩] }

/-- The elements of a timeline. An event without a title has none drawn. -/
def timeline (t : Theme α) (l : Timeline α) : List Element :=
  segment l.axis t.dividerColor l.axisWidth
    :: l.events.flatMap fun e =>
      (e.connector.map fun c => segment c e.color 2).toList
        ++ [dot e.x e.y l.dotRadius e.color, label t e.date]
        ++ (if e.title.text.isEmpty then [] else [label t e.title])
        ++ (e.description.map (label t)).toList

def comparisonChart (t : Theme α) (c : ComparisonChart α) : List Element :=
  [segment c.divider t.dividerColor 1, label t c.leftName, label t c.rightName]
    ++ c.groups.flatMap fun g => label t g.category :: (bar t g.left ++ bar t g.right)

def placeholder (t : Theme α) (b : Placeholder α) : List Element :=
  [box b.x b.y b.width b.height
    [⟨"rx", "4"⟩, ⟨"ry", "4"⟩, ⟨"fill", t.placeholderBackground⟩,
     ⟨"stroke", t.placeholderBorder⟩, ⟨"stroke-width", "1"⟩],
   label t
    { x := b.x + b.width / 2, y := b.y + b.height / 2, text := b.reason.message
      size := t.fontSize + 2, centered := true, color := some t.placeholderTextColor }]

def diagram (t : Theme α) : Diagram α → List Element
  | .bar c => barChart t c
  | .pie c => pieChart t c
  | .line c => lineChart t c
  | .radar c => radarChart t c
  | .process d => processDiagram t d
  | .timeline l => timeline t l
  | .comparison c => comparisonChart t c
  | .placeholder b => placeholder t b

def nameSpace : String := "http://www.w3.org/2000/svg"

/-- The drawing of a layout, never without extent. -/
def ofLayout (t : Theme α) (l : Layout α) : Drawing :=
  let width := greater l.width 1
  let height := greater l.height 1
  { attributes :=
      [⟨"xmlns", nameSpace⟩, measure "width" width, measure "height" height,
       ⟨"viewBox", "0 0 " ++ Written.full width ++ " " ++ Written.full height⟩,
       ⟨"font-family", escaped t.fontFamily⟩]
    elements :=
      { tag := .rect
        attributes := [⟨"width", "100%"⟩, ⟨"height", "100%"⟩, ⟨"fill", t.background⟩] }
      :: (l.title.map (label t)).toList ++ diagram t l.diagram }

end Infochart.Drawing
