import Infochart.Layout.Diagram
import Infochart.Layout.Plan
import Infochart.Layout.Settings
import Infochart.Theme

/-!
# Parts that the charts share

The title, the plot area, the steps of a value axis, the rows of a legend, and the box that stands in
place of a chart.
-/

namespace Infochart.Layout

open Chart (Kind Orientation)

variable {α : Type} [Scale α]

def half : α := 1 / 2

def titleY : α := 30

def titleLabel (title : String) (canvas : Canvas α) (t : Theme α) : Label α :=
  { x := canvas.width / 2, y := titleY, text := title, size := t.titleFontSize, bold := true }

def chartLayout (p : Plan α) (kind : Kind) (t : Theme α) (s : Settings α) (d : Diagram α) :
    Layout α where
  kind := some kind
  width := (s.canvas kind).width
  height := (s.canvas kind).height
  title := some (titleLabel p.title (s.canvas kind) t)
  diagram := d

/-- The canvas without its margins, and never without extent. -/
def plotArea (canvas : Canvas α) (margin : α) : Area α where
  left := margin
  top := margin
  width := greater (canvas.width - 2 * margin) 1
  height := greater (canvas.height - 2 * margin) 1

def placeholderHeight : α := 60

/-- A box with a message in the middle of a canvas. -/
def placeholder (kind : Option Kind) (canvas : Canvas α) (s : Settings α) (reason : Reason) :
    Layout α :=
  let width := greater (canvas.width - 2 * s.margin) 1
  { kind := kind
    width := canvas.width
    height := canvas.height
    title := none
    diagram := .placeholder
      { reason := reason
        x := (canvas.width - width) / 2
        y := (canvas.height - placeholderHeight) / 2
        width := width
        height := placeholderHeight } }

/-- The box in place of a chart whose required lists are missing or empty. -/
def insufficient (kind : Kind) (requirement : String) (s : Settings α) : Layout α :=
  placeholder (some kind) (s.canvas kind) s (.insufficient kind requirement)

/-- The text of a type that names no kind of chart, as it is shown. -/
def shownType (type : Option String) : String :=
  ((type.map Text.trimmed).filter (!·.isEmpty)).getD "not specified"

/-- The box in place of a chart of an unknown kind. -/
def unsupported (type : Option String) (s : Settings α) : Layout α :=
  placeholder none (s.canvas .bar) s (.unsupported (shownType type))

/-- A step of the value axis, at a share of its length. The axis is on the left of upright charts and
    at the bottom of the others. -/
def valueTick [Written α] (plot : Area α) (orientation : Orientation) (low high : α) (t : Theme α)
    (ratio : α) : Tick α :=
  let value := low + ratio * (high - low)
  let text := Written.rounded 0 value
  match orientation with
  | .vertical =>
    let y := plot.bottom - ratio * plot.height
    { value := value
      mark := ⟨plot.left - 5, y, plot.left, y⟩
      gridline := ⟨plot.left, y, plot.right, y⟩
      label :=
        { x := plot.left - 10, y := y, text := text, size := t.fontSize, anchor := .end
          centered := true } }
  | .horizontal =>
    let x := plot.left + ratio * plot.width
    { value := value
      mark := ⟨x, plot.bottom, x, plot.bottom + 5⟩
      gridline := ⟨x, plot.top, x, plot.bottom⟩
      label := { x := x, y := plot.bottom + 20, text := text, size := t.fontSize } }

/-- The steps of the value axis from end to end, at equal distances. -/
def valueTicks [Written α] (plot : Area α) (orientation : Orientation) (low high : α) (count : Nat)
    (t : Theme α) : List (Tick α) :=
  let count := max count 1
  (List.range (count + 1)).map fun (i : Nat) =>
    valueTick plot orientation low high t ((i : α) / (count : α))

/-- A row of a legend: a rectangle and a text on its right. -/
def legendItem (x y width height : α) (color text : String) (t : Theme α) : LegendItem α where
  x := x
  y := y
  width := width
  height := height
  color := color
  label := { x := x + width + 10, y := y + 12, text := text, size := t.fontSize, anchor := .start }

/-- A text, or a numbered one in its place if it is empty. -/
def numberedIfEmpty (word text : String) (i : Nat) : String :=
  if text.isEmpty then word ++ " " ++ toString (i + 1) else text

end Infochart.Layout
