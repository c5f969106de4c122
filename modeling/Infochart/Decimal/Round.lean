import Infochart.Decimal.Binary

/-!
# Rounding a quotient

`roundDiv` is the integer nearest to a quotient. Which way an exact half goes is a parameter, since
the texts of numbers and the rounding of values differ in it.
-/

namespace Infochart.Decimal

/-- Where a number half-way between two integers goes. -/
inductive Tie where
  /-- To the even neighbour. -/
  | toEven
  /-- To the larger neighbour. -/
  | up
  deriving Repr, DecidableEq

/-- Whether the larger neighbour `q + 1` is taken for `q + rest / den`. -/
def Tie.takesUpper (tie : Tie) (q rest den : Nat) : Bool :=
  if 2 * rest < den then false
  else if den < 2 * rest then true
  else match tie with
    | .toEven => q % 2 = 1
    | .up => true

/-- The integer nearest to `num / den`. -/
def roundDiv (num den : Nat) (tie : Tie) : Nat :=
  let q := num / den
  if tie.takesUpper q (num % den) den then q + 1 else q

/-- The number nearest to `significand · 2 ^ exponent · 10 ^ places`, as an integer. -/
def roundScaled (significand : Nat) (exponent : Int) (places : Nat) (tie : Tie) : Nat :=
  let (up, down) := powerRatio 2 exponent
  roundDiv (significand * up * Nat.pow 10 places) down tie

/-- The nearest integer, with a half going away from zero. The sign stays, also that of a zero. -/
def roundAway (x : Float) : Float :=
  match Binary.ofFloat x with
  | .finite negative m q =>
    if 0 ≤ q then x
    else
      let r := Float.ofScientific (roundScaled m q 0 .up) false 0
      if negative then -r else r
  | _ => x

end Infochart.Decimal
