import Infochart.Config.Overrides
import Infochart.Drawing.Bounds
import Infochart.Export

/-!
# Pictures in pixels

The size of the picture of a drawing. Without settings it is the size of the drawing; one measure gives
the other in proportion. Measures are computed with 32 bits and rounded up to whole pixels. A drawing
whose own size is not finite is as large as its shapes reach.
-/

namespace Infochart.Drawing

/-- The greatest number of pixels in a row: four bytes each have to fit 31 bits. -/
def maxPixelWidth : Nat := 536870911

/-- The measure that stands in for one that is not finite. -/
def fallbackMeasure : Float := 100

/-- The size that a drawing has by its own account, if 32 bits can hold it. -/
def ownExtent? (width height : Float) : Option Extent :=
  let measure (x : Float) : Float32 :=
    (if Decimal.isFinite x then x else fallbackMeasure).toFloat32
  let w := measure width
  let h := measure height
  if w.isFinite && h.isFinite then some ⟨w, h⟩ else none

/-- The size of a drawing: the one on its own account, or how far its shapes reach. -/
def naturalExtent? (width height : Float) (root : Markup.Node) : Option Extent :=
  (ownExtent? width height).map fun own =>
    if Decimal.isFinite width && Decimal.isFinite height then own
    else (bounds? own root).getD own

def extentFor (r : RasterSettings) (natural : Extent) : Extent :=
  match r.width, r.height with
  | some w, some h => ⟨w, h⟩
  | some w, none => ⟨w, natural.height * w / natural.width⟩
  | none, some h => ⟨natural.width * h / natural.height, h⟩
  | none, none => natural

/-- A measure in whole pixels: rounded up, none below zero, and as many as 32 bits can count above. -/
def pixels (x : Float32) : Nat :=
  x.ceil.toUInt32.toNat

/-- The size of the picture of a drawing in pixels. -/
def pictureSize (r : RasterSettings) (svg : String) (width height : Float) :
    Except Export.Failure (Nat × Nat) :=
  match (Markup.tree? svg.toList).filter Vector.isShown with
  | none => .error .malformed
  | some root =>
    match naturalExtent? width height root with
    | none => .error .malformed
    | some natural =>
      let extent := extentFor r natural
      let (w, h) := (pixels extent.width, pixels extent.height)
      if w = 0 ∨ h = 0 ∨ maxPixelWidth < w then .error (.extent w h) else .ok (w, h)

end Infochart.Drawing
