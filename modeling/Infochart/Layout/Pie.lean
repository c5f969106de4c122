import Infochart.Layout.Parts

/-!
# Pie charts

Each positive amount takes the share of the circle that it has in the sum of the positive amounts, one
slice behind the other. Other amounts take nothing, but keep their place in the order of colors and
labels.
-/

namespace Infochart.Layout

variable {α : Type} [Scale α]

def fullTurn : α := 2 * Scale.pi

/-- The measures that all slices of a chart have in common. -/
structure PieFrame (α : Type) where
  centerX : α
  centerY : α
  radius : α
  labelRadius : α
  total : α
  deriving Repr

def onCircle (x y radius angle : α) : α × α :=
  (x + radius * Scale.cos angle, y + radius * Scale.sin angle)

/-- The outline of a slice. An arc with equal ends would draw nothing, so a full turn is drawn as two
    halves; up to a billionth a turn counts as full. -/
def slicePath (x y radius start stop : α) : Path α :=
  let at' := onCircle x y radius
  let sweep := stop - start
  if fullTurn - 1 / 1000000000 ≤ sweep then
    let (x₁, y₁) := at' start
    let (x₂, y₂) := at' (start + Scale.pi)
    ⟨.twoPlaces,
      [.moveTo x₁ y₁, .arcTo radius true x₂ y₂, .arcTo radius true x₁ y₁, .close]⟩
  else
    let (x₁, y₁) := at' start
    let (x₂, y₂) := at' stop
    ⟨.twoPlaces,
      [.moveTo x y, .lineTo x₁ y₁, .arcTo radius (Scale.pi < sweep) x₂ y₂, .close]⟩

/-- A positive amount with its place among all amounts and the angle that it starts at. -/
structure Share (α : Type) where
  value : α
  index : Nat
  start : α
  deriving Repr

/-- The share of the full turn that an amount takes. -/
def PieFrame.sweep (f : PieFrame α) (value : α) : α :=
  value / f.total * fullTurn

/-- The positive amounts one behind the other, from a place and an angle on. -/
def PieFrame.shares (f : PieFrame α) (index : Nat) (start : α) : List α → List (Share α)
  | [] => []
  | v :: r =>
    if v ≤ 0 then f.shares (index + 1) start r
    else ⟨v, index, start⟩ :: f.shares (index + 1) (start + f.sweep v) r

variable [Written α]

def percentText (percent : α) : String :=
  Written.rounded 1 percent ++ "%"

def PieFrame.slice (f : PieFrame α) (p : Plan α) (t : Theme α) (s : Share α) : Slice α :=
  let fraction := s.value / f.total
  let sweep := f.sweep s.value
  let stop := s.start + sweep
  let percent := fraction * 100
  let (x, y) := onCircle f.centerX f.centerY f.labelRadius (s.start + sweep / 2)
  { label := p.labels[s.index]?.getD ""
    value := s.value
    percent := percent
    startAngle := s.start
    endAngle := stop
    largeArc := Scale.pi < sweep
    color := p.color s.index
    path := slicePath f.centerX f.centerY f.radius s.start stop
    percentLabel :=
      { x := x, y := y, text := percentText percent, size := t.fontSize + 2, bold := true
        centered := true, color := some t.onFillTextColor } }

def pieRow (canvas : Canvas α) (s : PieSettings α) (t : Theme α) (slice : Slice α) (row : Nat) :
    LegendItem α :=
  legendItem (canvas.width * (5 / 8)) (canvas.height * (1 / 5) + (row : α) * s.legendSpacing)
    s.legendSwatch s.legendSwatch slice.color
    (slice.label ++ ": " ++ Written.amount slice.value ++ " (" ++ percentText slice.percent ++ ")") t

/-- The layout of a pie chart. It takes labels and a dataset with a positive amount. Only slices that
    have a label get a row in the legend. -/
def pieLayout (p : Plan α) (t : Theme α) (s : Settings α) : Layout α :=
  let none' := insufficient .pie
    "labels (601) and a dataset (701) with positive values are required" s
  match p.filled? 1 with
  | none => none'
  | some series =>
    let values := series.amounts
    let sum := total (values.filter (0 < ·))
    if p.labels.isEmpty || (sum ≤ 0 || !Scale.isFinite sum) then none'
    else
      let canvas := s.canvas .pie
      let f : PieFrame α :=
        { centerX := canvas.width * (3 / 8)
          centerY := canvas.height / 2
          radius := s.pie.radius
          labelRadius := s.pie.radius * s.pie.labelRadiusRatio
          total := sum }
      let shares := f.shares 0 0 values
      let labelled := shares.filter (·.index < p.labels.length)
      chartLayout p .pie t s <| .pie
        { center := (f.centerX, f.centerY)
          radius := f.radius
          total := sum
          slices := shares.map (f.slice p t)
          legend := labelled.zipIdx.map fun (share, row) =>
            pieRow canvas s.pie t (f.slice p t share) row }

end Infochart.Layout
