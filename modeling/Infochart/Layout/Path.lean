import Infochart.Layout.Scale

/-!
# Paths

A path is a list of pen movements. Its coordinates are written either with two places or with all
their digits.
-/

namespace Infochart.Layout

inductive Move (α : Type) where
  | moveTo (x y : α)
  | lineTo (x y : α)
  /-- A clockwise arc of a circle, with the flag for more than half of it. -/
  | arcTo (radius : α) (large : Bool) (x y : α)
  | close
  deriving Repr

inductive Precision where
  | twoPlaces
  | allDigits
  deriving DecidableEq, Repr

structure Path (α : Type) where
  precision : Precision
  moves : List (Move α)
  deriving Repr

variable {α : Type}

/-- Straight lines from point to point, back to the first one if the path is closed. -/
def Path.polyline (points : List (α × α)) (closed : Bool) : Path α where
  precision := .twoPlaces
  moves := match points with
    | [] => []
    | (x, y) :: r =>
      .moveTo x y :: r.map (fun (u, v) => .lineTo u v) ++ if closed then [.close] else []

variable [Written α]

def Precision.point (p : Precision) (x y : α) : String :=
  match p with
  | .twoPlaces => Written.places 2 x ++ "," ++ Written.places 2 y
  | .allDigits => Written.full x ++ "," ++ Written.full y

def Move.text (p : Precision) : Move α → String
  | .moveTo x y => "M " ++ p.point x y
  | .lineTo x y => "L " ++ p.point x y
  | .arcTo radius large x y =>
    "A " ++ Written.full radius ++ "," ++ Written.full radius ++ " 0 "
      ++ (if large then "1" else "0") ++ ",1 " ++ p.point x y
  | .close => "Z"

def Path.text (p : Path α) : String :=
  " ".intercalate (p.moves.map (Move.text p.precision))

end Infochart.Layout
