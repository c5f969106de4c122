import Infochart.Layout.Parts
import Infochart.Text.Clip

/-!
# Timelines

The events lie on an axis at equal distances. Along a vertical axis their texts stand on its right;
along a horizontal one they alternate above and below it, so that neighbours do not collide.
-/

namespace Infochart.Layout

open Chart (Orientation)

variable {α : Type} [Scale α]

def timelineAxis (orientation : Orientation) (canvas : Canvas α) : Segment α :=
  match orientation with
  | .vertical => ⟨canvas.width / 4, 80, canvas.width / 4, canvas.height - 50⟩
  | .horizontal => ⟨50, canvas.height / 2, canvas.width - 50, canvas.height / 2⟩

/-- The distance of two events; a single one is at the start of the axis. -/
def timelineSpacing (orientation : Orientation) (axis : Segment α) (count : Nat) : α :=
  let length := match orientation with
    | .vertical => axis.y₂ - axis.y₁
    | .horizontal => axis.x₂ - axis.x₁
  if 1 < count then length / ((count - 1 : Nat) : α) else length

/-- How far texts are from a vertical axis. -/
def textGap : α := 25

def columnEvent (s : TimelineSettings α) (t : Theme α) (color date title : String)
    (description : Option String) (x y : α) : Event α :=
  let heading := t.fontSize + 2
  { x := x
    y := y
    color := color
    date :=
      { x := x - textGap, y := y, text := date, size := heading, anchor := .end, centered := true }
    title :=
      { x := x + textGap, y := y, text := title, size := heading, anchor := .start, bold := true
        centered := true }
    description := description.map fun text =>
      { x := x + textGap, y := y + 20, text := Text.clip text s.columnDescriptionChars
        size := t.fontSize, anchor := .start }
    connector := none }

def rowEvent (s : TimelineSettings α) (t : Theme α) (color date title : String)
    (description : Option String) (x y : α) (above : Bool) : Event α :=
  let textY := if above then y - s.labelOffset else y + s.labelOffset
  let endY := if above then y - s.connectorLength else y + s.connectorLength
  { x := x
    y := y
    color := color
    date := { x := x, y := textY - 20, text := date, size := t.fontSize }
    title := { x := x, y := textY, text := title, size := t.fontSize + 2, bold := true }
    description := description.map fun text =>
      { x := x, y := textY + 20, text := Text.clip text s.rowDescriptionChars, size := t.fontSize }
    connector := some ⟨x, y, x, endY⟩ }

/-- The layout of a timeline. It takes labels. -/
def timelineLayout (p : Plan α) (t : Theme α) (s : Settings α) : Layout α :=
  if p.labels.isEmpty then insufficient .timeline "events (601) are required" s
  else
    let axis := timelineAxis p.orientation (s.canvas .timeline)
    let spacing := timelineSpacing p.orientation axis p.labels.length
    let titles := ((p.dataset? 1).map Series.texts).getD []
    let descriptions := ((p.dataset? 2).map Series.texts).getD []
    let event (label : String) (i : Nat) : Event α :=
      let date := numberedIfEmpty "Event" label i
      let title := titles[i]?.getD ""
      let description := descriptions[i]?.filter (!·.isEmpty)
      match p.orientation with
      | .vertical =>
        columnEvent s.timeline t (p.color i) date title description axis.x₁
          (axis.y₁ + (i : α) * spacing)
      | .horizontal =>
        rowEvent s.timeline t (p.color i) date title description (axis.x₁ + (i : α) * spacing)
          axis.y₁ (i % 2 == 0)
    chartLayout p .timeline t s <| .timeline
      { orientation := p.orientation
        axis := axis
        axisWidth := s.timeline.axisWidth
        dotRadius := s.timeline.dotRadius
        events := p.labels.zipIdx.map fun (label, i) => event label i }

end Infochart.Layout
