import Infochart.Layout.Compute
import Mathlib.Data.List.Forall2

/-!
# What a diagram shows

The content of a chart is what of a plan, or of a map, is to be seen in it: the labels, the entries of the
series that its kind draws, and their colors and names. `Diagram.Shows` says that a diagram shows a
content, neither more nor less of it and nothing in another place. It is said of the diagram alone, by
the marks that are in it, and not by the way in which they are made.
-/

namespace Infochart.Layout

open Chart (Kind Orientation Palette)
open Property (Map)

structure Content (α : Type) where
  labels : List String
  series : List (List (Entry α))
  color : Nat → String
  name : Nat → String

section Content

variable {α : Type}

/-- The series that a kind of chart draws, of datasets by their numbers. Bars and lines take all of five
    that are there, the other kinds one or two that have an entry. -/
def seriesOf (kind : Kind) (dataset? : Nat → Option (List (Entry α))) : List (List (Entry α)) :=
  let filled? (i : Nat) := (dataset? i).filter (!·.isEmpty)
  match kind with
  | .bar | .line => (List.range' 1 5).filterMap dataset?
  | .pie => (filled? 1).toList
  | .radar =>
    match filled? 1 with
    | none => []
    | some first => first :: (filled? 2).toList
  | .comparison => (filled? 1).toList ++ (filled? 2).toList
  | .process | .timeline => []

/-- The entries of a dataset of a map, if it is a list. -/
def entries? (m : Map) (i : Nat) : Option (List (Entry Float)) :=
  (m.list? (.dataset i)).map (·.map fun x => ⟨x.amount, x.shown⟩)

/-- The content of a map as a chart of a given kind. -/
def Content.ofMap (defaultScheme : String) (kind : Kind) (m : Map) : Content Float where
  labels := Chart.listTexts m .labels
  series := seriesOf kind (entries? m)
  color := Chart.colorAt (Palette.resolve (Chart.schemeName defaultScheme m)).colors
  name i := (Chart.listTexts m .seriesLabels)[i]?.getD ("Series " ++ toString (i + 1))

namespace Content

/-- The entry of a series for a category. -/
def item? (c : Content α) (i j : Nat) : Option (Entry α) :=
  c.series[i]?.bind (·[j]?)

/-- The labels, with a numbered text in place of each empty one. -/
def numbered (c : Content α) (word : String) : List String :=
  c.labels.zipIdx.map fun (text, i) => numberedIfEmpty word text i

/-- The colors and names that a legend explains: those of all series if there is more than one. -/
def legend (c : Content α) : List (String × String) :=
  if 1 < c.series.length then (List.range c.series.length).map fun i => (c.color i, c.name i) else []

end Content

/-! ## Parts of diagrams -/

def LegendItem.row (item : LegendItem α) : String × String :=
  (item.color, item.label.text)

/-- The series and the category of a bar. -/
def Bar.place (b : Bar α) : Nat × Nat :=
  (b.series, b.category)

/-- The point that a movement of the pen ends at. -/
def Move.end? : Move α → Option (α × α)
  | .moveTo x y | .lineTo x y | .arcTo _ _ x y => some (x, y)
  | .close => none

def Path.vertices (p : Path α) : List (α × α) :=
  p.moves.filterMap Move.end?

/-- The closing of a path adds no vertex. -/
theorem vertices_polyline (points : List (α × α)) (closed : Bool) :
    (Path.polyline points closed).vertices = points := by
  cases points with
  | nil => rfl
  | cons q r =>
    have hlines : (r.map fun q => Move.lineTo q.1 q.2).filterMap Move.end? = r := by
      rw [List.filterMap_map]
      exact List.filterMap_some
    have hclose : (if closed then [Move.close] else []).filterMap Move.end? = ([] : List (α × α)) := by
      cases closed <;> rfl
    show q :: ((r.map fun q : α × α => Move.lineTo q.1 q.2) ++
      if closed then [Move.close] else []).filterMap Move.end? = q :: r
    rw [List.filterMap_append, hlines, hclose, List.append_nil]

variable [Scale α]

/-- Where the arrow to the next step leaves a step: five away from the middle of an edge. -/
def Step.outlet (s : Step α) : Orientation → α × α
  | .horizontal => (s.x + s.width + 5, s.y + s.height / 2)
  | .vertical => (s.x + s.width / 2, s.y + s.height + 5)

/-! ## What a diagram shows -/

/-- One bar for each entry of a series that has a label, and no other. -/
structure BarChart.Shows [Written α] (chart : BarChart α) (c : Content α) : Prop where
  nodup : (chart.bars.map Bar.place).Nodup
  places (i j : Nat) :
    (i, j) ∈ chart.bars.map Bar.place ↔ j < c.labels.length ∧ (c.item? i j).isSome
  bars : ∀ b ∈ chart.bars, b.color = c.color b.series ∧ ∃ e, c.item? b.series b.category = some e ∧
    b.value = e.amount ∧ b.label.text = Written.amount e.amount
  categories : chart.categories.map Label.text = c.labels
  legend : chart.legend.map LegendItem.row = c.legend

/-- A slice for each positive amount, with the color and the label of its place among all amounts. -/
structure PieChart.Shows (chart : PieChart α) (c : Content α) : Prop where
  slices : ∃ es, c.series = [es] ∧
    chart.slices.map (fun s => (s.value, s.label, s.color)) =
      (es.zipIdx.filter (0 < ·.1.amount)).map fun (e, i) =>
        (e.amount, c.labels[i]?.getD "", c.color i)

/-- A point and a vertex of the line for each entry that has a label. -/
structure LineSeries.Shows (l : LineSeries α) (c : Content α) (i : Nat) (es : List (Entry α)) :
    Prop where
  entries : l.points.map (fun q => (q.value, q.label.text)) =
    (es.take c.labels.length).map fun e => (e.amount, e.text)
  vertices : l.path.vertices = l.points.map fun q => (q.x, q.y)
  color : l.color = c.color i
  name : l.name = c.name i

structure LineChart.Shows (chart : LineChart α) (c : Content α) : Prop where
  series : List.Forall₂ (fun l (es, i) => l.Shows c i es) chart.series c.series.zipIdx
  categories : chart.categories.map Label.text = c.labels
  legend : chart.legend.map LegendItem.row = c.legend
  /-- The points of all series stand above the labels, from the first one on. -/
  aligned : ∀ l ∈ chart.series, l.points.map LinePoint.x <+: chart.categories.map Label.x

/-- A point and a vertex of the outline for each label, at zero where the series has no entry. -/
structure RadarSeries.Shows (l : RadarSeries α) (c : Content α) (i : Nat) (es : List (Entry α)) :
    Prop where
  entries : l.points.map (fun q => (q.value, q.label.text)) =
    (List.range c.labels.length).map fun j => (es[j]?.map fun e => (e.amount, e.text)).getD (0, "")
  vertices : l.path.vertices = l.points.map fun q => (q.x, q.y)
  color : l.color = c.color i
  name : l.name = c.name i

structure RadarChart.Shows (chart : RadarChart α) (c : Content α) : Prop where
  axes : chart.axes.map (·.label.text) = c.numbered "Axis"
  series : List.Forall₂ (fun l (es, i) => l.Shows c i es) chart.series c.series.zipIdx
  count : chart.series.length = 1 ∨ chart.series.length = 2
  legend : chart.legend.map LegendItem.row = c.legend

/-- A box for each label, and an arrow from each box but the last. -/
structure ProcessDiagram.Shows (d : ProcessDiagram α) (c : Content α) : Prop where
  titles : d.steps.map (·.title.text) = c.numbered "Step"
  arrows : d.arrows.map (·.vertices.head?) =
    d.steps.dropLast.map fun s => some (s.outlet d.orientation)

structure Timeline.Shows (l : Timeline α) (c : Content α) : Prop where
  dates : l.events.map (·.date.text) = c.numbered "Event"

/-- A bar of a comparison: that of an entry, at zero if there is none. -/
structure Bar.Compares (b : Bar α) (c : Content α) (i j : Nat) : Prop where
  place : b.place = (i, j)
  value : b.value = ((c.item? i j).map Entry.amount).getD 0
  color : b.color = c.color i

/-- A group for each label, with one bar on the left and one on the right. -/
structure ComparisonChart.Shows (chart : ComparisonChart α) (c : Content α) : Prop where
  series : c.series.length = 2
  categories : chart.groups.map (·.category.text) = c.numbered "Category"
  groups (j : Nat) (g : Group α) : chart.groups[j]? = some g →
    g.left.Compares c 0 j ∧ g.right.Compares c 1 j

/-- Whether a diagram is one of a given kind and shows a content. -/
def Diagram.Shows [Written α] (d : Diagram α) (kind : Kind) (c : Content α) : Prop :=
  match kind, d with
  | .bar, .bar chart => chart.Shows c
  | .pie, .pie chart => chart.Shows c
  | .line, .line chart => chart.Shows c
  | .radar, .radar chart => chart.Shows c
  | .process, .process d => d.Shows c
  | .timeline, .timeline l => l.Shows c
  | .comparison, .comparison chart => chart.Shows c
  | _, _ => False

end Content

end Infochart.Layout
