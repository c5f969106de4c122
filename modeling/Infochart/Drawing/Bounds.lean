import Infochart.Decimal.Text
import Infochart.Drawing.Vector

/-!
# Bounds of a drawing

How far the shapes of a drawing reach to the right and down. Measures are read with 32 bits; one that
cannot be read counts as zero, and a shape that has no finite extent does not count at all. Texts do
not count either, since how long they are depends on the fonts at hand.
-/

namespace Infochart.Drawing

open Markup (Head Node)

structure Extent where
  width : Float32
  height : Float32

namespace Bounds

/-- A number in front of a text, if it is within the range of binary numbers. -/
def takeNumber (s : List Char) : Option (Float32 × List Char) :=
  match Decimal.Numeral.scan Char.isDigit s with
  | some (n, r) => if Decimal.isFinite n.value then some (n.value.toFloat32, r) else none
  | none => none

/-- A measure: a number, or a part of a whole in percent. -/
def measure? (whole : Float32) (s : List Char) : Option Float32 :=
  match takeNumber (s.dropWhile Markup.isTagBlank) with
  | some (x, r) =>
    match r with
    | '%' :: t => if t.all Markup.isTagBlank then some (whole * x / 100) else none
    | 'p' :: 'x' :: t => if t.all Markup.isTagBlank then some x else none
    | t => if t.all Markup.isTagBlank then some x else none
  | none => none

/-- The measure of an attribute, zero if there is none. -/
def measure (whole : Float32) (name : String) (h : Head) : Float32 :=
  ((Vector.value? none name h).bind (measure? whole)).getD 0

/-- How far some points reach. Two points at least make a shape. -/
def ofPoints : List (Float32 × Float32) → Option Extent
  | p :: q :: r =>
    some ((q :: r).foldl (fun e (x, y) => ⟨max e.width x, max e.height y⟩) ⟨p.1, p.2⟩)
  | _ => none

/-- The point in front of a text: two numbers with a comma between them. -/
def takePoint (s : List Char) : Option ((Float32 × Float32) × List Char) := do
  let (x, r) ← takeNumber s
  match r with
  | ',' :: t =>
    let (y, t) ← takeNumber t
    return ((x, y), t)
  | _ => none

/-- The points that a path leads to, up to the first step that cannot be read. -/
def pathPoints : Nat → List Char → List (Float32 × Float32)
  | 0, _ => []
  | fuel + 1, s =>
    match s.dropWhile Markup.isTagBlank with
    | 'M' :: r | 'L' :: r =>
      match takePoint (r.dropWhile Markup.isTagBlank) with
      | some (p, t) => p :: pathPoints fuel t
      | none => []
    | _ => []

/-- How far an element of a drawing reaches by itself, where percents are those of `whole`. -/
def ofElement? (whole : Extent) (name : String) (h : Head) : Option Extent :=
  let across := measure whole.width
  let down := measure whole.height
  match name with
  | "rect" =>
    let (w, d) := (across "width" h, down "height" h)
    if 0 < w ∧ 0 < d then some ⟨w + across "x" h, d + down "y" h⟩ else none
  | "circle" =>
    let r := across "r" h
    if 0 < r then some ⟨across "cx" h + r, down "cy" h + r⟩ else none
  | "line" => ofPoints [(across "x1" h, down "y1" h), (across "x2" h, down "y2" h)]
  | "path" =>
    let d := (Vector.value? none "d" h).getD []
    ofPoints (pathPoints d.length d)
  | _ => none

/-- The names of the elements whose children are shapes of the drawing. -/
def isGroup (name : String) : Bool :=
  name = "svg" || name = "g" || name = "a" || name = "switch"

def shapes (whole : Extent) : Node → List Extent
  | .note => []
  | .element h children =>
    match Vector.elementName? h with
    | none => []
    | some name =>
      if isGroup name then below children
      else (ofElement? whole name h).toList.filter fun e => e.width.isFinite && e.height.isFinite
where
  /-- The extents of the shapes below some nodes. -/
  below : List Node → List Extent
    | [] => []
    | n :: r => shapes whole n ++ below r

end Bounds

/-- How far the shapes of a drawing reach, if they reach anywhere. -/
def bounds? (whole : Extent) (root : Node) : Option Extent :=
  match Bounds.shapes whole root with
  | [] => none
  | e :: r =>
    let b := r.foldl (fun a b : Extent => ⟨max a.width b.width, max a.height b.height⟩) e
    if 0 < b.width ∧ 0 < b.height then some b else none

end Infochart.Drawing
