import Infochart.Layout.Parts
import Infochart.Text.Clip

/-!
# Process diagrams

The steps are boxes in a row or in a column, with an arrow from each box to the next.
-/

namespace Infochart.Layout

open Chart (Orientation)

/-- The measures that all boxes of a diagram have in common. -/
structure ProcessFrame (α : Type) where
  orientation : Orientation
  boxWidth : α
  boxHeight : α
  arrowLength : α
  /-- How far the title is below the upper edge of its box. -/
  titleOffset : α
  originX : α
  originY : α
  deriving Repr

variable {α : Type} [Scale α]

/-- The measures of a plan's diagram. A row is centered from left to right, and a column both ways. -/
def ProcessFrame.of (p : Plan α) (s : Settings α) : ProcessFrame α :=
  let canvas := s.canvas .process
  let count : α := (p.labels.length : α)
  let m := s.process
  match p.orientation with
  | .horizontal =>
    let total := count * m.boxWidth + (count - 1) * m.arrowLength
    { orientation := .horizontal, boxWidth := m.boxWidth, boxHeight := m.boxHeight
      arrowLength := m.arrowLength, titleOffset := 25
      originX := (canvas.width - total) / 2, originY := canvas.height * (3 / 8) }
  | .vertical =>
    let total := count * m.columnBoxHeight + (count - 1) * m.columnArrowLength
    { orientation := .vertical, boxWidth := m.columnBoxWidth, boxHeight := m.columnBoxHeight
      arrowLength := m.columnArrowLength, titleOffset := 22
      originX := (canvas.width - m.columnBoxWidth) / 2, originY := (canvas.height - total) / 2 }

/-- A shaft to the right with an open head, five away from both boxes. -/
def rightArrow (x y length : α) : Path α :=
  let tip := x + length - 5
  let barb := x + length - 12
  ⟨.allDigits,
    [.moveTo (x + 5) y, .lineTo tip y, .moveTo barb (y - 7), .lineTo tip y, .lineTo barb (y + 7)]⟩

/-- A shaft downwards with an open head, five away from both boxes. -/
def downArrow (x y length : α) : Path α :=
  let tip := y + length - 5
  let barb := y + length - 12
  ⟨.allDigits,
    [.moveTo x (y + 5), .lineTo x tip, .moveTo (x - 7) barb, .lineTo x tip, .lineTo (x + 7) barb]⟩

namespace ProcessFrame

def corner (f : ProcessFrame α) (i : Nat) : α × α :=
  match f.orientation with
  | .horizontal => (f.originX + (i : α) * (f.boxWidth + f.arrowLength), f.originY)
  | .vertical => (f.originX, f.originY + (i : α) * (f.boxHeight + f.arrowLength))

def description (f : ProcessFrame α) (t : Theme α) (maxLines : Nat) (text : String) (i : Nat) :
    List (Label α) :=
  let (x, y) := f.corner i
  if text.isEmpty then []
  else (Text.labelLines text maxLines).zipIdx.map fun (line, n) =>
    { x := x + f.boxWidth / 2, y := y + 40 + (n : α) * 12, text := line, size := t.smallFontSize
      color := some t.onFillTextColor }

def step (f : ProcessFrame α) (p : Plan α) (t : Theme α) (maxLines : Nat) (descriptions : List String)
    (label : String) (i : Nat) : Step α :=
  let (x, y) := f.corner i
  { x := x
    y := y
    width := f.boxWidth
    height := f.boxHeight
    color := p.color i
    title :=
      { x := x + f.boxWidth / 2, y := y + f.titleOffset, text := numberedIfEmpty "Step" label i
        size := t.fontSize + 2, bold := true, color := some t.onFillTextColor }
    description := f.description t maxLines (descriptions[i]?.getD "") i }

def arrow (f : ProcessFrame α) (i : Nat) : Path α :=
  let (x, y) := f.corner i
  match f.orientation with
  | .horizontal => rightArrow (x + f.boxWidth) (y + f.boxHeight / 2) f.arrowLength
  | .vertical => downArrow (x + f.boxWidth / 2) (y + f.boxHeight) f.arrowLength

end ProcessFrame

/-- The layout of a process diagram. It takes labels. -/
def processLayout (p : Plan α) (t : Theme α) (s : Settings α) : Layout α :=
  if p.labels.isEmpty then insufficient .process "steps (601) are required" s
  else
    let f := ProcessFrame.of p s
    let descriptions := ((p.dataset? 1).map Series.texts).getD []
    chartLayout p .process t s <| .process
      { orientation := f.orientation
        cornerRadius := s.process.cornerRadius
        steps := p.labels.zipIdx.map fun (label, i) =>
          f.step p t s.process.maxDescriptionLines descriptions label i
        arrows := (List.range (p.labels.length - 1)).map f.arrow }

end Infochart.Layout
