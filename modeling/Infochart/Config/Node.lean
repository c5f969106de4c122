import Infochart.Decimal.Binary
import Infochart.Decimal.Text
import Infochart.Json.Relaxed

/-!
# Settings files as data

Settings files come in the strict and in the relaxed format, which differ in what a number means to
whoever asks for it, and in what a pair of units stands for. `Node` brings the two together: it carries
what each literal gives when a number, a count or anything at all is asked for, and the functions below
it are the questions.
-/

namespace Infochart.Config

open Json (Form Piece)

structure Reading where
  /-- Where a number is asked for. -/
  real : Option Float
  /-- Where a count is asked for. -/
  count : Option Nat
  /-- Where either a number or a text is asked for. -/
  free : Option Float

/-- Data with the readings of its literals; a text that stands for none is kept as such. -/
inductive Node where
  | null
  | flag (b : Bool)
  | number (r : Reading)
  | text (s : Option String)
  | array (items : List Node)
  | object (members : List (Option String × Node))

def maxCount : Nat := Nat.pow 2 64 - 1

/-- The readings of a strict literal: a count has to be written as an integer. -/
def strictReading (l : Json.Literal) : Reading :=
  let real := match l.value? with
    | some (.integer n) => some (if n < 0 then -(Float.ofNat n.natAbs) else Float.ofNat n.natAbs)
    | some (.real x) => some x
    | _ => none
  let count := match l.value? with
    | some (.integer n) => if 0 ≤ n then some n.toNat else none
    | _ => none
  ⟨real, count, real⟩

/-- The number of hexadecimal digits, if 32 bits are enough for it. -/
def hexadecimal? (digits : List Char) : Option Nat :=
  let n := digits.foldl (fun n c => 16 * n + (Json.hexDigit? c).getD 0) 0
  if n < Nat.pow 2 32 then some n else none

/-- The number that a relaxed literal stands for. Signs do not go with hexadecimal digits, a plus sign
    only with decimal ones, and a decimal number has to be within the range of binary numbers. -/
def relaxedReal (l : Json.Relaxed.Literal) : Option Float :=
  match l.sign, l.body with
  | none, .infinite => some Decimal.infinity
  | some .minus, .infinite => some (-Decimal.infinity)
  | none, .undefined => some Decimal.undefinedNumber
  | some .minus, .undefined => some Decimal.undefinedNumber
  | none, .hexadecimal digits => (hexadecimal? digits).map Float.ofNat
  | sign, .decimal whole fraction exponent =>
    let x := Decimal.Numeral.value
      { negative := sign == some .minus
        whole := whole
        fraction := fraction.getD []
        negativeExponent := (exponent.map Prod.fst).getD false
        exponent := (exponent.map Prod.snd).getD [] }
    if Decimal.isFinite x then some x else none
  | _, _ => none

/-- The count nearest below a number: none below zero, and the greatest one beyond the range. -/
def countOf (x : Float) : Nat :=
  match Decimal.Binary.ofFloat x with
  | .undefined => 0
  | .infinite negative => if negative then 0 else maxCount
  | .finite negative m q =>
    let (up, down) := Decimal.powerRatio 2 q
    if negative then 0 else min (m * up / down) maxCount

/-- The integer that a relaxed literal is written as, if it is written as one. -/
def relaxedInteger? (l : Json.Relaxed.Literal) : Option (Option Float) :=
  match l.body with
  | .hexadecimal digits =>
    some (if l.sign = none then (hexadecimal? digits).map Float.ofNat else none)
  | .decimal whole none none =>
    let n := Decimal.ofDigits whole
    let negative := l.sign == some .minus
    some <|
      if !negative then if n < Nat.pow 2 63 then some (Float.ofNat n) else none
      else if n = 0 then some 0
      else if n ≤ Nat.pow 2 63 then some (-(Float.ofNat n))
      else none
  | _ => none

/-- The readings of a relaxed literal. Where the type is free an integer has to fit 63 bits and a
    sign. -/
def relaxedReading (l : Json.Relaxed.Literal) : Reading :=
  let real := relaxedReal l
  { real := real
    count := real.map countOf
    free := (relaxedInteger? l).getD real }

/-- What the parts of a text mean in a format with literals of type `ν`. -/
structure Meaning (ν : Type) where
  /-- What a number literal gives. -/
  reading : ν → Reading
  /-- The character of a pair of UTF-16 units. -/
  pair : Nat → Nat → Char

def strictMeaning : Meaning Json.Literal := ⟨strictReading, Json.pair⟩

def relaxedMeaning : Meaning Json.Relaxed.Literal := ⟨relaxedReading, Json.Relaxed.pair⟩

mutual

def ofForm {ν : Type} (m : Meaning ν) : Form ν → Node
  | .null => .null
  | .bool b => .flag b
  | .number l => .number (m.reading l)
  | .text ps => .text (Json.decodeText m.pair ps)
  | .array items => .array (ofItems m items)
  | .object members => .object (ofMembers m members)

/-- Items with what their literals and texts mean. -/
def ofItems {ν : Type} (m : Meaning ν) : List (Form ν) → List Node
  | [] => []
  | t :: r => ofForm m t :: ofItems m r

/-- Members with what their keys, literals and texts mean. -/
def ofMembers {ν : Type} (m : Meaning ν) :
    List (List Piece × Form ν) → List (Option String × Node)
  | [] => []
  | (k, t) :: r => (Json.decodeText m.pair k, ofForm m t) :: ofMembers m r

end

mutual

/-- Whether everything in the data has a meaning. -/
def Node.isSound : Node → Bool
  | .number r => r.free.isSome
  | .text s => s.isSome
  | .array items => soundItems items
  | .object members => soundMembers members
  | _ => true

def soundItems : List Node → Bool
  | [] => true
  | n :: r => n.isSound && soundItems r

def soundMembers : List (Option String × Node) → Bool
  | [] => true
  | (k, n) :: r => k.isSome && n.isSound && soundMembers r

end

structure Manner where
  /-- Whether an array may have more items than the record has fields. -/
  moreItems : Bool
  /-- Whether members that the record does not know must have a meaning all the same. -/
  soundUnknown : Bool
  deriving DecidableEq, Repr

def strict : Manner := ⟨false, false⟩

def relaxed : Manner := ⟨true, true⟩

/-- Collects the members of a record with known fields. A field may come only once. -/
def knownMembers (m : Manner) (fields : List String) :
    List (Option String × Node) → Option (List (String × Node))
  | [] => some []
  | (key, n) :: r => do
    let key ← key
    let rest ← knownMembers m fields r
    if fields.contains key then
      if (rest.lookup key).isSome then none else some ((key, n) :: rest)
    else if m.soundUnknown && !n.isSound then none
    else some rest

namespace Node

/-- The fields of a record, which is an object or the array of all its fields in order. An absent field
    is as good as a missing value. -/
def record (m : Manner) (fields : List String) : Node → Option (String → Node)
  | .object members => do
    let known ← knownMembers m fields members
    return fun field => (known.lookup field).getD .null
  | .array items =>
    if items.length = fields.length ∨ (m.moreItems = true ∧ fields.length < items.length) then
      some fun field => ((fields.zip items).lookup field).getD .null
    else none
  | _ => none

/-- A value that may be missing. -/
def optional {β : Type} (read : Node → Option β) : Node → Option (Option β)
  | .null => some none
  | n => (read n).map some

/-- A number. -/
def real : Node → Option Float
  | .number r => r.real
  | _ => none

/-- A count. -/
def count : Node → Option Nat
  | .number r => r.count
  | _ => none

/-- A text. -/
def string : Node → Option String
  | .text s => s
  | _ => none

/-- A truth value. -/
def bool : Node → Option Bool
  | .flag b => some b
  | _ => none

end Node

/-- The data of a text in the strict format. Nesting has no bound here. -/
def strictNode? (s : List Char) : Option Node :=
  (Form.ofText? s.length s).map (ofForm strictMeaning)

def relaxedNode? (s : List Char) : Option Node :=
  (Json.Relaxed.form? s).map (ofForm relaxedMeaning)

end Infochart.Config
