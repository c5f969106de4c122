import Infochart.Decimal.Text

/-!
# The numbers of a layout

Layouts are computed with any numbers that can be added, multiplied and compared, that have a circle
constant with its two functions, and that can be written. They run on binary numbers of 64 bits; the
same definitions read over the real numbers are what the geometry of a chart means.
-/

namespace Infochart.Layout

class Scale (α : Type) extends Add α, Sub α, Mul α, Div α, NatCast α, LT α, LE α where
  decidableLT : DecidableRel ((· < ·) : α → α → Prop)
  decidableLE : DecidableRel ((· ≤ ·) : α → α → Prop)
  /-- Whether a sum has stayed within the range of the numbers. -/
  isFinite : α → Bool
  /-- Half the full turn. -/
  pi : α
  cos : α → α
  sin : α → α

attribute [reducible, instance] Scale.decidableLT Scale.decidableLE

class Written (α : Type) where
  /-- An amount in a label. -/
  amount : α → String
  /-- An amount in a label, rounded to a number of places. -/
  rounded : Nat → α → String
  /-- A coordinate with all its digits. -/
  full : α → String
  /-- A coordinate with a fixed number of places. -/
  places : Nat → α → String

variable {α : Type} [Scale α]

instance (priority := low) literal (n : Nat) : OfNat α n := ⟨(n : α)⟩

/-- The greater of two numbers; of a number and something undefined the number. -/
def greater (x y : α) : α :=
  if y < x then x else if y ≤ y then y else x

/-- The lesser of two numbers; of a number and something undefined the number. -/
def lesser (x y : α) : α :=
  if y < x then y else if x ≤ x then x else y

/-- The number of the interval from zero to one that is nearest. -/
def clampUnit (x : α) : α :=
  if x < 0 then 0 else if 1 < x then 1 else x

def greatest : List α → Option α
  | [] => none
  | x :: r => some (r.foldl greater x)

def least : List α → Option α
  | [] => none
  | x :: r => some (r.foldl lesser x)

/-- The sum of some numbers, added up from the first on. -/
def total (xs : List α) : α :=
  xs.foldl (· + ·) 0

/-- The greatest of some amounts, and one when none is positive: what the length of a bar is measured
    by, so never zero. -/
def scaleMax (xs : List α) : α :=
  match greatest xs with
  | some m => if 0 < m then m else 1
  | none => 1

instance : Scale Float where
  natCast := Float.ofNat
  decidableLT := fun a b => inferInstanceAs (Decidable (a < b))
  decidableLE := fun a b => inferInstanceAs (Decidable (a ≤ b))
  isFinite := Decimal.isFinite
  pi := 3.141592653589793
  cos := Float.cos
  sin := Float.sin

instance : Written Float where
  amount := Decimal.amount
  rounded := Decimal.rounded
  full := Decimal.plain
  places := Decimal.places

end Infochart.Layout
