import Infochart.Text.Range
import Infochart.Text.Table.Letter
import Infochart.Text.Table.Mark
import Infochart.Text.Table.Digit
import Infochart.Json.Reader

/-!
# Reading data written by hand

The relaxed format adds to the strict one what hand-written files have: comments, more blanks, single
quotes, keys without quotes, a comma behind the last item, and numbers with a sign, in hexadecimal,
with a bare point, infinite or undefined. Of the characters that need a pair of units it has only every
other plane.
-/

namespace Infochart.Json.Relaxed

open Infochart.Text

/-- The character of a pair of UTF-16 units. The bit of the first plane beyond the basic one is set and
    not added, so that a pair of the second plane stands for a character of the first, one of the
    fourth for one of the third, and so on. -/
def pair (lead trail : Nat) : Char :=
  Char.ofNat (0x10000 ||| ((lead - 0xD800) * 0x400 + (trail - 0xDC00)))

def isLineEnd (c : Char) : Bool :=
  c = '\n' || c = '\r' || c.toNat = 0x2028 || c.toNat = 0x2029

/-- A blank of the relaxed format: the space characters, the horizontal and vertical tabs, the form
    feed, the byte order mark and the line ends. -/
def isSpace (c : Char) : Bool :=
  let n := c.toNat
  isLineEnd c || n == 9 || n == 11 || n == 12 || n == 0x20 || n == 0xA0 || n == 0xFEFF
    || n == 0x1680 || (0x2000 ≤ n && n ≤ 0x200A) || n == 0x202F || n == 0x205F || n == 0x3000

/-- Where the reader is while it passes over blanks and comments. -/
inductive Place where
  | outside
  | inLine
  | inBlock
  deriving Repr, DecidableEq

/-- Passes over blanks and comments; a block comment has to be closed. -/
def pass : Place → List Char → Option (List Char)
  | .outside, [] => some []
  | .outside, '/' :: '/' :: r => pass .inLine r
  | .outside, '/' :: '*' :: r => pass .inBlock r
  | .outside, c :: r => if isSpace c then pass .outside r else some (c :: r)
  | .inLine, [] => some []
  | .inLine, c :: r => if isLineEnd c then pass .outside r else pass .inLine r
  | .inBlock, [] => none
  | .inBlock, '*' :: '/' :: r => pass .outside r
  | .inBlock, _ :: r => pass .inBlock r

def skip (s : List Char) : Option (List Char) :=
  pass .outside s

inductive Body where
  | infinite
  | undefined
  | hexadecimal (digits : List Char)
  | decimal (whole : List Char) (fraction : Option (List Char)) (exponent : Option (Bool × List Char))
  deriving Repr, DecidableEq

inductive Sign where
  | plus
  | minus
  deriving Repr, DecidableEq

structure Literal where
  sign : Option Sign
  body : Body
  deriving Repr, DecidableEq

/-- An exponent with at least one digit, or nothing. -/
def takePower (s : List Char) : Option (Bool × List Char) × List Char :=
  match Json.takePower s with
  | some (some e, r) => (some e, r)
  | _ => (none, s)

/-- A decimal number: digits before the point, behind it, or both. -/
def takeDecimal (s : List Char) : Option (Body × List Char) :=
  match s with
  | '.' :: r => do
    let (fraction, r) ← takeDigits r
    let (exponent, r) := takePower r
    return (.decimal [] (some fraction) exponent, r)
  | _ => do
    let (whole, r) ← takeWhole s
    let (fraction, r) := match r with
      | '.' :: t => (some (t.takeWhile Char.isDigit), t.dropWhile Char.isDigit)
      | t => (none, t)
    let (exponent, r) := takePower r
    return (.decimal whole fraction exponent, r)

def isHexDigit (c : Char) : Bool :=
  (hexDigit? c).isSome

def takeBody (s : List Char) : Option (Body × List Char) :=
  match s with
  | 'I' :: 'n' :: 'f' :: 'i' :: 'n' :: 'i' :: 't' :: 'y' :: r => some (.infinite, r)
  | 'N' :: 'a' :: 'N' :: r => some (.undefined, r)
  | '0' :: c :: r =>
    let digits := r.takeWhile isHexDigit
    if (c = 'x' ∨ c = 'X') ∧ digits ≠ [] then
      some (.hexadecimal digits, r.dropWhile isHexDigit)
    else takeDecimal s
  | _ => takeDecimal s

def takeNumber (s : List Char) : Option (Literal × List Char) :=
  match s with
  | '+' :: r => (takeBody r).map fun (b, t) => (⟨some .plus, b⟩, t)
  | '-' :: r => (takeBody r).map fun (b, t) => (⟨some .minus, b⟩, t)
  | _ => (takeBody s).map fun (b, t) => (⟨none, b⟩, t)

/-- The character of an escape of one character. Letters without a meaning of their own stand for
    themselves; digits and line ends do not. -/
def escaped? (c : Char) : Option Char :=
  if c = 'b' then some '\x08'
  else if c = 'f' then some '\x0c'
  else if c = 'n' then some '\n'
  else if c = 'r' then some '\r'
  else if c = 't' then some '\t'
  else if c = 'v' then some '\x0b'
  else if c = '0' then some '\x00'
  else if c.isDigit ∨ c = 'x' ∨ c = 'u' ∨ isLineEnd c = true then none
  else some c

/-- The pieces up to the closing quote, and the text behind it. A backslash at the end of a line
    joins the next line. -/
def takeText (close : Char) : List Char → Option (List Piece × List Char)
  | [] => none
  | '\\' :: 'u' :: a :: b :: c :: d :: r =>
    match hexCode? a b c d with
    | some n => (takeText close r).map fun (ps, t) => (.unit n :: ps, t)
    | none => none
  | '\\' :: 'x' :: a :: b :: r =>
    match hexDigit? a, hexDigit? b with
    | some x, some y => (takeText close r).map fun (ps, t) => (.char (Char.ofNat (16 * x + y)) :: ps, t)
    | _, _ => none
  | '\\' :: '\r' :: '\n' :: r => takeText close r
  | '\\' :: c :: r =>
    if isLineEnd c then takeText close r
    else match escaped? c with
      | some x => (takeText close r).map fun (ps, t) => (.char x :: ps, t)
      | none => none
  | c :: r =>
    if c = close then some ([], r)
    else if c = '\\' ∨ isLineEnd c = true then none
    else (takeText close r).map fun (ps, t) => (.char c :: ps, t)

/-- A character that a key without quotes may begin with. -/
def isNameStart (c : Char) : Bool :=
  c = '$' || c = '_' || inRanges Table.letters c.toNat

/-- A character that may follow in a key without quotes. -/
def isNamePart (c : Char) : Bool :=
  isNameStart c || inRanges Table.marks c.toNat || inRanges Table.diacritics c.toNat
    || inRanges Table.digits c.toNat || inRanges Table.lateDigits c.toNat
    || inRanges Table.connectors c.toNat
    || c.toNat = 0x200C || c.toNat = 0x200D

def takeName : List Char → List Piece × List Char
  | [] => ([], [])
  | '\\' :: 'u' :: a :: b :: c :: d :: r =>
    match hexCode? a b c d with
    | some n => let (ps, t) := takeName r; (.unit n :: ps, t)
    | none => ([], '\\' :: 'u' :: a :: b :: c :: d :: r)
  | c :: r =>
    if isNamePart c then let (ps, t) := takeName r; (.char c :: ps, t) else ([], c :: r)

/-- A key, with or without quotes. -/
def takeKey (s : List Char) : Option (List Piece × List Char) :=
  match s with
  | [] => none
  | c :: r =>
    if c = '"' ∨ c = '\'' then takeText c r
    else if c = '\\' ∨ isNameStart c = true then
      match takeName s with
      | ([], _) => none
      | key => some key
    else none

mutual

def readValue : Nat → List Char → Option (Form Literal × List Char)
  | 0, _ => none
  | fuel + 1, s => do
    match ← skip s with
    | 'n' :: 'u' :: 'l' :: 'l' :: r => return (.null, r)
    | 't' :: 'r' :: 'u' :: 'e' :: r => return (.bool true, r)
    | 'f' :: 'a' :: 'l' :: 's' :: 'e' :: r => return (.bool false, r)
    | '"' :: r => (takeText '"' r).map fun (ps, t) => (.text ps, t)
    | '\'' :: r => (takeText '\'' r).map fun (ps, t) => (.text ps, t)
    | '[' :: r =>
      match ← skip r with
      | ']' :: t => return (.array [], t)
      | t => (readItems fuel t).map fun (items, u) => (.array items, u)
    | '{' :: r =>
      match ← skip r with
      | '}' :: t => return (.object [], t)
      | t => (readMembers fuel t).map fun (members, u) => (.object members, u)
    | r => (takeNumber r).map fun (n, t) => (.number n, t)

/-- Reads the items of an array up to the closing bracket. -/
def readItems : Nat → List Char → Option (List (Form Literal) × List Char)
  | 0, _ => none
  | fuel + 1, s => do
    let (v, r) ← readValue fuel s
    match ← skip r with
    | ']' :: t => return ([v], t)
    | ',' :: t =>
      match ← skip t with
      | ']' :: u => return ([v], u)
      | u => (readItems fuel u).map fun (vs, w) => (v :: vs, w)
    | _ => none

/-- Reads the members of an object up to the closing brace. -/
def readMembers : Nat → List Char → Option (List (List Piece × Form Literal) × List Char)
  | 0, _ => none
  | fuel + 1, s => do
    let (key, r) ← takeKey (← skip s)
    match ← skip r with
    | ':' :: r =>
      let (v, r) ← readValue fuel r
      match ← skip r with
      | '}' :: t => return ([(key, v)], t)
      | ',' :: t =>
        match ← skip t with
        | '}' :: u => return ([(key, v)], u)
        | u => (readMembers fuel u).map fun (ms, w) => ((key, v) :: ms, w)
      | _ => none
    | _ => none

end

def form? (s : List Char) : Option (Form Literal) := do
  let (t, r) ← readValue (2 * s.length + 1) s
  if (← skip r).isEmpty then some t else none

end Infochart.Json.Relaxed
