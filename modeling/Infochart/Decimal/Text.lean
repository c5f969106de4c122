import Infochart.Decimal.Shortest

/-!
# Numbers as text

The ways in which numbers are written: with the fewest digits and never an exponent (`plain`), with
a fixed number of places (`places`), as an amount for a label (`amount`), rounded for a label
(`rounded`), and inside data texts, where very large and small numbers take an exponent
(`exponential`).
-/

namespace Infochart.Decimal

def digitsOf (n : Nat) : List Char :=
  Nat.toDigits 10 n

/-- A point in front of the last `places` digits, with zeros filled in where digits are missing. -/
def withPoint (digits : List Char) (places : Nat) : List Char :=
  let padded := List.replicate (places + 1 - digits.length) '0' ++ digits
  let whole := padded.take (padded.length - places)
  if places = 0 then whole else whole ++ '.' :: padded.drop (padded.length - places)

/-- The number `digits · 10 ^ exponent` without an exponent. -/
def positional (s : Scaled) : List Char :=
  let digits := digitsOf s.digits
  if 0 ≤ s.exponent then digits ++ List.replicate s.exponent.toNat '0'
  else withPoint digits (-s.exponent).toNat

def signed (negative : Bool) (text : List Char) : List Char :=
  if negative then '-' :: text else text

/-- The fewest digits that read back, without an exponent. A zero keeps its sign; half-way between
    two shortest decimals the larger one is taken. -/
def plain (x : Float) : String :=
  match Binary.ofFloat x with
  | .undefined => "NaN"
  | .infinite negative => String.ofList (signed negative ['i', 'n', 'f'])
  | .finite negative m q =>
    String.ofList (signed negative (if m = 0 then ['0'] else positional (shortest .up m q)))

/-- A fixed number of places. The exact value is rounded, a half to the even neighbour, and the
    sign stays also when only zeros are left. -/
def places (n : Nat) (x : Float) : String :=
  match Binary.ofFloat x with
  | .undefined => "NaN"
  | .infinite negative => String.ofList (signed negative ['i', 'n', 'f'])
  | .finite negative m q =>
    String.ofList (signed negative (withPoint (digitsOf (roundScaled m q n .toEven)) n))

/-- Whether a number is neither infinite nor undefined. -/
def isFinite (x : Float) : Bool :=
  match Binary.ofFloat x with
  | .finite _ _ _ => true
  | _ => false

def isZero (x : Float) : Bool :=
  match Binary.ofFloat x with
  | .finite _ m _ => m = 0
  | _ => false

/-- An amount as labels show it: zeros without a sign, and zero for what is not a number. -/
def amount (x : Float) : String :=
  if isZero x || !isFinite x then "0" else plain x

/-- The product of `acc` and a power, by repeated squaring from the low bit of the exponent up, each
    product rounded. -/
def powerInto (acc base : Float) (n : Nat) : Float :=
  if n = 0 then acc
  else powerInto (if n % 2 = 1 then acc * base else acc) (base * base) (n / 2)
termination_by n

/-- A number rounded to a number of places, a half away from zero, in the arithmetic of binary
    numbers: scaled, rounded and scaled back. Without places the text is that of an amount. -/
def rounded (n : Nat) (x : Float) : String :=
  if !isFinite x then places n 0
  else
    let factor := powerInto 1 10 n
    let r := roundAway (x * factor) / factor
    if n = 0 then amount r else places n r

/-- The text of a number in data: at least one place, and an exponent from `10 ^ 16` upwards and
    below `10 ^ (-5)`. Half-way between two shortest decimals the one with an even last digit is
    taken. What is not a finite number has no text. -/
def exponential? (x : Float) : Option String :=
  match Binary.ofFloat x with
  | .finite negative m q =>
    let body :=
      if m = 0 then ['0', '.', '0']
      else
        let s := shortest .toEven m q
        let digits := digitsOf s.digits
        let point : Int := digits.length + s.exponent
        if 0 ≤ s.exponent ∧ point ≤ 16 then positional s ++ ['.', '0']
        else if -5 < point ∧ point ≤ 16 then positional s
        else
          let mantissa := match digits with
            | [] => []
            | [d] => [d]
            | d :: ds => d :: '.' :: ds
          let e := point - 1
          let mark := if e < 0 then ['e', '-'] else ['e', '+']
          mantissa ++ mark ++ digitsOf e.natAbs
    some (String.ofList (signed negative body))
  | _ => none

end Infochart.Decimal
