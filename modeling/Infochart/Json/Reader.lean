import Infochart.Json.Form
import Infochart.Json.Number

/-!
# Reading data

The reader of the strict format. `Form.ofText?` takes a whole text, blanks around it allowed, and
refuses one whose arrays and objects are nested deeper than it is told. The recursion is bounded by
the length of the text, since every step takes a character.
-/

namespace Infochart.Json

/-- The blanks that may stand between the parts of the data. -/
def isSpace (c : Char) : Bool :=
  c = ' ' || c = '\t' || c = '\n' || c = '\r'

def skip (s : List Char) : List Char :=
  s.dropWhile isSpace

def hexDigit? (c : Char) : Option Nat :=
  if c.isDigit then some (c.toNat - 48)
  else if 'a' ≤ c ∧ c ≤ 'f' then some (c.toNat - 87)
  else if 'A' ≤ c ∧ c ≤ 'F' then some (c.toNat - 55)
  else none

def hexCode? (a b c d : Char) : Option Nat := do
  return (((← hexDigit? a) * 16 + (← hexDigit? b)) * 16 + (← hexDigit? c)) * 16 + (← hexDigit? d)

def escaped? : Char → Option Char
  | '"' => some '"'
  | '\\' => some '\\'
  | '/' => some '/'
  | 'b' => some '\x08'
  | 'f' => some '\x0c'
  | 'n' => some '\n'
  | 'r' => some '\r'
  | 't' => some '\t'
  | _ => none

/-- The pieces up to the closing quote, and the text behind it. Control characters have to be
    escaped. -/
def takeText : List Char → Option (List Piece × List Char)
  | [] => none
  | '"' :: r => some ([], r)
  | '\\' :: 'u' :: a :: b :: c :: d :: r =>
    match hexCode? a b c d with
    | some n => (takeText r).map fun (ps, t) => (.unit n :: ps, t)
    | none => none
  | '\\' :: c :: r =>
    match escaped? c with
    | some x => (takeText r).map fun (ps, t) => (.char x :: ps, t)
    | none => none
  | c :: r =>
    if c = '\\' ∨ c.toNat < 0x20 then none
    else (takeText r).map fun (ps, t) => (.char c :: ps, t)

/-- The digits in front, one at least. -/
def takeDigits (s : List Char) : Option (List Char × List Char) :=
  let digits := s.takeWhile Char.isDigit
  if digits.isEmpty then none else some (digits, s.dropWhile Char.isDigit)

/-- The digits before the point: a zero alone, or digits that do not begin with zero. -/
def takeWhole (s : List Char) : Option (List Char × List Char) :=
  match takeDigits s with
  | some ('0' :: _ :: _, _) => none
  | d => d

/-- The digits behind a point, if one is there. -/
def takeFraction : List Char → Option (Option (List Char) × List Char)
  | '.' :: r => (takeDigits r).map fun (digits, t) => (some digits, t)
  | r => some (none, r)

/-- The exponent, if one is there. -/
def takePower : List Char → Option (Option (Bool × List Char) × List Char)
  | c :: r =>
    if c = 'e' ∨ c = 'E' then
      let (negative, t) := Decimal.takeSign r
      (takeDigits t).map fun (digits, u) => (some (negative, digits), u)
    else some (none, c :: r)
  | [] => some (none, [])

/-- A number literal, and the text behind it. -/
def takeNumber (s : List Char) : Option (Literal × List Char) := do
  let (negative, s) := match s with
    | '-' :: r => (true, r)
    | r => (false, r)
  let (whole, s) ← takeWhole s
  let (fraction, s) ← takeFraction s
  let (exponent, s) ← takePower s
  return (⟨negative, whole, fraction, exponent⟩, s)

mutual

/-- Reads one value. At most `room` arrays and objects may lie inside one another. -/
def readValue : Nat → Nat → List Char → Option (Form Literal × List Char)
  | 0, _, _ => none
  | fuel + 1, room, s =>
    match skip s with
    | 'n' :: 'u' :: 'l' :: 'l' :: r => some (.null, r)
    | 't' :: 'r' :: 'u' :: 'e' :: r => some (.bool true, r)
    | 'f' :: 'a' :: 'l' :: 's' :: 'e' :: r => some (.bool false, r)
    | '"' :: r => (takeText r).map fun (ps, t) => (.text ps, t)
    | '[' :: r =>
      if room = 0 then none
      else match skip r with
        | ']' :: t => some (.array [], t)
        | t => (readItems fuel (room - 1) t).map fun (items, u) => (.array items, u)
    | '{' :: r =>
      if room = 0 then none
      else match skip r with
        | '}' :: t => some (.object [], t)
        | t => (readMembers fuel (room - 1) t).map fun (members, u) => (.object members, u)
    | r => (takeNumber r).map fun (n, t) => (.number n, t)

/-- Reads the items of an array up to the closing bracket. -/
def readItems : Nat → Nat → List Char → Option (List (Form Literal) × List Char)
  | 0, _, _ => none
  | fuel + 1, room, s =>
    match readValue fuel room s with
    | none => none
    | some (v, r) =>
      match skip r with
      | ']' :: t => some ([v], t)
      | ',' :: t => (readItems fuel room t).map fun (vs, u) => (v :: vs, u)
      | _ => none

/-- Reads the members of an object up to the closing brace. -/
def readMembers : Nat → Nat → List Char → Option (List (List Piece × Form Literal) × List Char)
  | 0, _, _ => none
  | fuel + 1, room, s =>
    match skip s with
    | '"' :: r =>
      match takeText r with
      | none => none
      | some (key, r) =>
        match skip r with
        | ':' :: r =>
          match readValue fuel room r with
          | none => none
          | some (v, r) =>
            match skip r with
            | '}' :: t => some ([(key, v)], t)
            | ',' :: t => (readMembers fuel room t).map fun (ms, u) => ((key, v) :: ms, u)
            | _ => none
        | _ => none
    | _ => none

end

/-- The data of a whole text, with at most `room` arrays and objects inside one another. -/
def Form.ofText? (room : Nat) (s : List Char) : Option (Form Literal) :=
  match readValue (2 * s.length + 1) room s with
  | some (t, r) => if (skip r).isEmpty then some t else none
  | none => none

mutual

/-- The value of data as written, if all its numbers and texts have one. -/
def Form.value? : Form Literal → Option Value
  | .null => some .null
  | .bool b => some (.bool b)
  | .number l => l.value?
  | .text ps => (decodeText pair ps).map .text
  | .array items => (itemValues? items).map .array
  | .object members => (memberValues? members).map .object

def itemValues? : List (Form Literal) → Option (List Value)
  | [] => some []
  | t :: r => do return (← t.value?) :: (← itemValues? r)

def memberValues? : List (List Piece × Form Literal) → Option (List (String × Value))
  | [] => some []
  | (k, t) :: r => do return (← decodeText pair k, ← t.value?) :: (← memberValues? r)

end

/-- How many arrays and objects of a value may lie inside one another. -/
def valueRoom : Nat := 127

def Value.ofText? (s : List Char) : Option Value :=
  (Form.ofText? valueRoom s).bind Form.value?

end Infochart.Json
