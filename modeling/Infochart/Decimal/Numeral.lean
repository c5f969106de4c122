/-!
# Reading decimals

A numeral is an optional sign, digits with an optional point, and an optional exponent; at least one
digit stands before the exponent. `Numeral.scan` takes the longest numeral in front of a text, for
any notion of digit, and `Numeral.value` is the binary number nearest to it. On both stands
`number?`, which reads a whole text and also knows the names of the numbers that are not finite.
`single?` reads the same texts as numbers of 32 bits; it rounds only once, so it may differ from
what `number?` gives when that is rounded again.
-/

namespace Infochart.Decimal

/-- The parts of a numeral, as they stand in the text. -/
structure Numeral where
  negative : Bool
  whole : List Char
  fraction : List Char
  negativeExponent : Bool
  exponent : List Char
  deriving Repr, DecidableEq

def ofDigits (digits : List Char) : Nat :=
  digits.foldl (fun n c => 10 * n + (c.toNat - 48)) 0

/-- Takes a sign; no sign counts as plus. -/
def takeSign : List Char → Bool × List Char
  | '-' :: r => (true, r)
  | '+' :: r => (false, r)
  | r => (false, r)

/-- Takes an exponent with at least one digit, or nothing. -/
def takeExponent (isDigit : Char → Bool) (s : List Char) : (Bool × List Char) × List Char :=
  match s with
  | c :: r =>
    if c = 'e' ∨ c = 'E' then
      let (negative, t) := takeSign r
      let digits := t.takeWhile isDigit
      if digits.isEmpty then ((false, []), s) else ((negative, digits), t.dropWhile isDigit)
    else ((false, []), s)
  | [] => ((false, []), [])

/-- The longest numeral in front of a text, and the text behind it. -/
def Numeral.scan (isDigit : Char → Bool) (s : List Char) : Option (Numeral × List Char) :=
  let (negative, r) := takeSign s
  let whole := r.takeWhile isDigit
  let r := r.dropWhile isDigit
  let (fraction, r) := match r with
    | '.' :: t => (some (t.takeWhile isDigit), t.dropWhile isDigit)
    | t => (none, t)
  if whole.isEmpty ∧ (fraction.getD []).isEmpty then none
  else
    let ((negativeExponent, exponent), r) := takeExponent isDigit r
    some (⟨negative, whole, fraction.getD [], negativeExponent, exponent⟩, r)

/-- Whether all digits of the numeral are digits of ASCII. -/
def Numeral.isAscii (n : Numeral) : Bool :=
  n.whole.all Char.isDigit && n.fraction.all Char.isDigit && n.exponent.all Char.isDigit

def infinity : Float :=
  Float.ofBits 0x7FF0000000000000

def undefinedNumber : Float :=
  Float.ofBits 0x7FF8000000000000

/-- The binary number nearest to `m · 10 ^ e`. Beyond the range of binary numbers the answer is
    known without computing the power. -/
def nearest (m : Nat) (e : Int) : Float :=
  let size : Int := (Nat.toDigits 10 m).length + e
  if m = 0 then 0
  else if 310 < size then infinity
  else if size < -326 then 0
  else Float.ofScientific m (e < 0) e.natAbs

/-- The number of 32 bits nearest to `m · 10 ^ e`. Beyond the range of these numbers the answer is
    known without computing the power. -/
def nearestSingle (m : Nat) (e : Int) : Float32 :=
  let size : Int := (Nat.toDigits 10 m).length + e
  if m = 0 then 0
  else if 40 < size then infinity.toFloat32
  else if size < -46 then 0
  else Float32.ofScientific m (e < 0) e.natAbs

/-- All digits of the numeral as one natural number. -/
def Numeral.significand (n : Numeral) : Nat :=
  ofDigits (n.whole ++ n.fraction)

/-- The power of ten that the significand is to be multiplied with. -/
def Numeral.power (n : Numeral) : Int :=
  (if n.negativeExponent then -(ofDigits n.exponent : Int) else ofDigits n.exponent)
    - n.fraction.length

def Numeral.value (n : Numeral) : Float :=
  let x := nearest n.significand n.power
  if n.negative then -x else x

/-- The number of 32 bits nearest to the numeral. -/
def Numeral.single (n : Numeral) : Float32 :=
  let x := nearestSingle n.significand n.power
  if n.negative then -x else x

/-- The number with a given name: an infinite one or one that is not a number, in any letter case
    and with any sign. -/
def named? (s : List Char) : Option Float :=
  let (negative, r) := takeSign s
  let name := r.map Char.toLower
  if name = "inf".toList ∨ name = "infinity".toList then
    some (if negative then -infinity else infinity)
  else if name = "nan".toList then some undefinedNumber
  else none

/-- The number that a whole text stands for, if it does. -/
def number? (s : List Char) : Option Float :=
  match Numeral.scan Char.isDigit s with
  | some (n, []) => some n.value
  | _ => named? s

/-- The number of 32 bits that a whole text stands for, if it does. -/
def single? (s : List Char) : Option Float32 :=
  match Numeral.scan Char.isDigit s with
  | some (n, []) => some n.single
  | _ => (named? s).map Float.toFloat32

end Infochart.Decimal
