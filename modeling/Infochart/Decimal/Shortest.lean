import Infochart.Decimal.Round

/-!
# Shortest decimals

A decimal stands for a binary number when reading it back gives the number again, that is when it
lies between the two points half-way to the neighbouring numbers; these points belong to the
interval exactly if the significand is even. `shortest` finds the decimal with the fewest digits in
the interval, and of those the nearest one: it walks through the grids of the powers of ten from
coarse to fine and takes the first that has a point in the interval. If a grid has a point there,
one of the two neighbours of the number on the grid lies there, so only these two are tried.
-/

namespace Infochart.Decimal

/-- The decimal number `digits · 10 ^ exponent`. -/
structure Scaled where
  digits : Nat
  exponent : Int
  deriving Repr, DecidableEq

/-- Whether `d · 10 ^ k` reads back as `m · 2 ^ q`. Both ends of the interval are compared in
    quarters of the last place; below a power of two the lower neighbour is only half as far. -/
def readsBack (m : Nat) (q : Int) (d : Nat) (k : Int) : Bool :=
  let (twoUp, twoDown) := powerRatio 2 q
  let (tenUp, tenDown) := powerRatio 10 k
  let point := 4 * d * tenUp * twoDown
  let unit := twoUp * tenDown
  let narrow := m = Nat.pow 2 52 ∧ -1074 < q
  let low := (4 * m - if narrow then 1 else 2) * unit
  let high := (4 * m + 2) * unit
  if m % 2 = 0 then low ≤ point && point ≤ high else low < point && point < high

/-- The nearer of the two neighbours on the grid of `10 ^ k` that read back, if one does. -/
def onGrid (tie : Tie) (m : Nat) (q k : Int) : Option Nat :=
  let (twoUp, twoDown) := powerRatio 2 q
  let (tenUp, tenDown) := powerRatio 10 k
  let num := m * twoUp * tenDown
  let den := twoDown * tenUp
  let d := num / den
  let below := 0 < d && readsBack m q d k
  let above := readsBack m q (d + 1) k
  match below, above with
  | true, true => some (if tie.takesUpper d (num % den) den then d + 1 else d)
  | true, false => some d
  | false, true => some (d + 1)
  | false, false => none

/-- A power of ten above `m · 2 ^ q`, at most a thousandfold too large. -/
def startExponent (m : Nat) (q : Int) : Int :=
  ((Nat.log2 m : Int) + 1 + q) * 30103 / 100000 + 2

/-- The first grid with a point that reads back, from `10 ^ k` downwards. -/
def firstGrid (tie : Tie) (m : Nat) (q : Int) : Nat → Int → Scaled
  | 0, k => ⟨m, k⟩
  | steps + 1, k =>
    match onGrid tie m q k with
    | some d => ⟨d, k⟩
    | none => firstGrid tie m q steps (k - 1)

/-- The decimal with the fewest digits that reads back as the positive number `m · 2 ^ q`. Seventeen
    digits always suffice, so the walk ends before its bound. -/
def shortest (tie : Tie) (m : Nat) (q : Int) : Scaled :=
  firstGrid tie m q 22 (startExponent m q)

end Infochart.Decimal
