import Infochart.Layout.Parts

/-!
# Comparison charts

The bars of two series extend to the left and to the right of a line in the middle, measured by the
greatest amount of both.
-/

namespace Infochart.Layout

variable {α : Type} [Scale α]

/-- The measures that all bars of a chart have in common. -/
structure ComparisonFrame (α : Type) where
  plot : Area α
  centerX : α
  /-- The greatest length of a bar. -/
  halfExtent : α
  maxValue : α
  groupHeight : α
  startY : α
  deriving Repr

def ComparisonFrame.of (left right : Series α) (count : Nat) (s : Settings α) : ComparisonFrame α :=
  let plot := plotArea (s.canvas .comparison) s.margin
  let m := s.comparison
  let groupHeight := 2 * m.barHeight + m.barGap
  let total := (count : α) * groupHeight + ((count : α) - 1) * m.groupGap
  { plot := plot
    centerX := plot.left + plot.width / 2
    halfExtent := greater (plot.width / 2 - m.centerGap) 0
    maxValue := scaleMax (left.amounts ++ right.amounts)
    groupHeight := groupHeight
    startY := plot.top + plot.height / 2 - total / 2 }

namespace ComparisonFrame

def length (f : ComparisonFrame α) (value : α) : α :=
  greater (value / f.maxValue) 0 * f.halfExtent

def groupY (f : ComparisonFrame α) (s : ComparisonSettings α) (i : Nat) : α :=
  f.startY + (i : α) * (f.groupHeight + s.groupGap)

/-- The bar of a series, the first on the left. A missing entry counts as zero, and so does the text of
    an empty one. -/
def bar (f : ComparisonFrame α) (p : Plan α) (t : Theme α) (s : ComparisonSettings α) (d : Series α)
    (side category : Nat) : Bar α :=
  let entry := d.entries[category]?
  let value := (entry.map Entry.amount).getD 0
  let text := ((entry.map Entry.text).filter (!·.isEmpty)).getD "0"
  let width := f.length value
  let y := f.groupY s category - s.barGap
  let labelY := y + s.barHeight / 2
  { series := side
    category := category
    x := if side = 0 then f.centerX - width else f.centerX
    y := y
    width := width
    height := s.barHeight
    value := value
    color := p.color side
    label :=
      if side = 0 then
        { x := f.centerX - width - 5, y := labelY, text := text, size := t.fontSize
          anchor := .end, centered := true }
      else
        { x := f.centerX + width + 5, y := labelY, text := text, size := t.fontSize
          anchor := .start, centered := true } }

/-- The name of a series above its side of the plot. -/
def sideName (f : ComparisonFrame α) (p : Plan α) (t : Theme α) (side : Nat) (share : α)
    (fallback : String) : Label α :=
  { x := f.plot.left + f.plot.width * share, y := f.plot.top - 20
    text := p.seriesLabel side fallback, size := t.fontSize + 2, bold := true }

def group (f : ComparisonFrame α) (p : Plan α) (t : Theme α) (s : ComparisonSettings α)
    (left right : Series α) (label : String) (i : Nat) : Group α where
  category :=
    { x := f.centerX, y := f.groupY s i + s.barHeight, text := numberedIfEmpty "Category" label i
      size := t.fontSize + 2, bold := true, centered := true }
  left := f.bar p t s left 0 i
  right := f.bar p t s right 1 i

end ComparisonFrame

/-- The layout of a comparison chart. It takes labels and the first two datasets. -/
def comparisonLayout (p : Plan α) (t : Theme α) (s : Settings α) : Layout α :=
  let none' := insufficient .comparison
    "categories (601) and two datasets (701, 702) are required" s
  match p.filled? 1, p.filled? 2 with
  | some left, some right =>
    if p.labels.isEmpty then none'
    else
      let f := ComparisonFrame.of left right p.labels.length s
      chartLayout p .comparison t s <| .comparison
        { divider := ⟨f.centerX, f.plot.top, f.centerX, f.plot.bottom⟩
          maxValue := f.maxValue
          leftName := f.sideName p t 0 (1 / 4) "Product A"
          rightName := f.sideName p t 1 (3 / 4) "Product B"
          groups := p.labels.zipIdx.map fun (label, i) =>
            f.group p t s.comparison left right label i }
  | _, _ => none'

end Infochart.Layout
