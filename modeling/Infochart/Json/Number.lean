import Infochart.Decimal.Numeral
import Infochart.Json.Value

/-!
# Numbers in data

An integer that fits 64 bits is kept exactly. Any other number is read in two steps, as the format
prescribes: its digits are collected into a 64-bit significand while they fit, and the significand
is then scaled by one power of ten, each step rounded. The result may differ in the last digit from
the nearest binary number. A number beyond the binary range is refused.
-/

namespace Infochart.Json

open Decimal

/-- A number as written: sign, digits before the point, digits behind it, exponent with its sign. -/
structure Literal where
  negative : Bool
  whole : List Char
  fraction : Option (List Char)
  exponent : Option (Bool × List Char)
  deriving Repr, DecidableEq

/-- The digits collected so far: a significand of at most 64 bits, the power of ten that goes with
    it, and whether a digit has been left out. -/
structure Collected where
  significand : Nat
  exponent : Int
  full : Bool
  deriving Repr, DecidableEq

/-- Collects the digits before the point; those that no longer fit count as a power of ten. -/
def collectWhole (digits : List Char) : Collected :=
  digits.foldl (fun s c =>
    let n := 10 * s.significand + (c.toNat - 48)
    if s.full || Nat.pow 2 64 ≤ n then { s with exponent := s.exponent + 1, full := true }
    else { s with significand := n }) ⟨0, 0, false⟩

/-- Collects the digits behind the point; those from the first that does not fit are dropped. -/
def collectFraction (start : Collected) (digits : List Char) : Collected :=
  digits.foldl (fun s c =>
    let n := 10 * s.significand + (c.toNat - 48)
    if s.full || Nat.pow 2 64 ≤ n then { s with full := true }
    else ⟨n, s.exponent - 1, false⟩) { start with full := false }

/-- A significand times a power of ten, the product rounded. A quotient by more than `10 ^ 308` takes
    a second step. -/
def scale (significand : Nat) (e : Int) : Option Float :=
  let f := Float.ofScientific significand false 0
  if 0 ≤ e then
    if e ≤ 308 then
      let x := f * Float.ofScientific 1 false e.toNat
      if x < infinity then some x else none
    else if significand = 0 then some f
    else none
  else if -308 ≤ e then some (f / Float.ofScientific 1 false (-e).toNat)
  else if -616 ≤ e then
    some (f / Float.ofScientific 1 false 308 / Float.ofScientific 1 false (-e - 308).toNat)
  else some 0

/-- The binary number of a literal that is not kept as an integer. -/
def Literal.real? (l : Literal) : Option Float :=
  let whole := collectWhole l.whole
  let all : Collected := match l.fraction with
    | some digits => collectFraction whole digits
    | none => whole
  let size : Nat := (l.exponent.map fun (_, digits) => ofDigits digits).getD 0
  let minus : Bool := (l.exponent.map fun (negative, _) => negative).getD false
  let x :=
    if Nat.pow 2 31 ≤ size then
      if all.significand ≠ 0 ∧ minus = false then none else some 0
    else scale all.significand (if minus then all.exponent - size else all.exponent + size)
  x.map fun x => if l.negative then -x else x

/-- The value of a literal: an integer if it is written as one and fits 64 bits, with a sign or
    without, and a binary number otherwise. A zero with a minus sign is not an integer. -/
def Literal.value? (l : Literal) : Option Value :=
  let n := ofDigits l.whole
  if l.fraction = none ∧ l.exponent = none then
    if l.negative = false ∧ n < Nat.pow 2 64 then some (.integer n)
    else if l.negative ∧ 0 < n ∧ n ≤ Nat.pow 2 63 then some (.integer (-n))
    else l.real?.map .real
  else l.real?.map .real

end Infochart.Json
