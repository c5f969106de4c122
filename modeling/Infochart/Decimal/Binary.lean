/-!
# The exact value of a binary number

A finite number of 64 bits is a sign, a significand and a power of two. All texts of numbers are
computed from these three in exact integer arithmetic.
-/

namespace Infochart.Decimal

inductive Binary where
  | undefined
  | infinite (negative : Bool)
  /-- The number `significand · 2 ^ exponent`, with its sign. -/
  | finite (negative : Bool) (significand : Nat) (exponent : Int)
  deriving Repr, DecidableEq

/-- Reads sign, exponent and fraction off the bits. The smallest exponent field stands for numbers
    without a leading one, the largest for infinities and undefined results. -/
def Binary.ofFloat (x : Float) : Binary :=
  let bits : Nat := x.toBits.toNat
  let negative := decide (Nat.pow 2 63 ≤ bits)
  let field : Nat := bits / Nat.pow 2 52 % Nat.pow 2 11
  let fraction : Nat := bits % Nat.pow 2 52
  if field = 2047 then
    if fraction = 0 then .infinite negative else .undefined
  else if field = 0 then .finite negative fraction (-1074)
  else .finite negative (Nat.pow 2 52 + fraction) ((field : Int) - 1075)

/-- The power `base ^ e` as a quotient of two natural numbers, one of which is one. -/
def powerRatio (base : Nat) (e : Int) : Nat × Nat :=
  (Nat.pow base e.toNat, Nat.pow base (-e).toNat)

end Infochart.Decimal
