/-!
# Data as written

`Form` is a piece of data as its text has it: numbers are literals that nobody has read yet, texts
are the pieces between the quotes, and an object keeps all its members, repeated keys included. What
a number or a text means, and whether it means anything, is decided by whoever asks for it. The two
readers of the library differ in their literals and in what a pair of units stands for, so both are
parameters.
-/

namespace Infochart.Json

/-- A piece of a text: a character, or a unit of UTF-16 given by its code. -/
inductive Piece where
  | char (c : Char)
  | unit (code : Nat)
  deriving Repr, DecidableEq

def pair (lead trail : Nat) : Char :=
  Char.ofNat (0x10000 + (lead - 0xD800) * 0x400 + (trail - 0xDC00))

/-- The text that the pieces stand for, where `join` gives the character of a pair of units; a surrogate
    that is not part of a pair stands for none. -/
def decode (join : Nat → Nat → Char) : List Piece → Option (List Char)
  | [] => some []
  | .char c :: r => (decode join r).map (c :: ·)
  | .unit n :: r =>
    if n < 0xD800 ∨ 0xE000 ≤ n then (decode join r).map (Char.ofNat n :: ·)
    else if 0xDC00 ≤ n then none
    else match r with
      | .unit m :: t =>
        if 0xDC00 ≤ m ∧ m < 0xE000 then (decode join t).map (join n m :: ·) else none
      | _ => none

/-- The text that the pieces stand for, as a string. -/
def decodeText (join : Nat → Nat → Char) (ps : List Piece) : Option String :=
  (decode join ps).map String.ofList

/-- Data as written, with literals of type `ν` for the numbers. -/
inductive Form (ν : Type) where
  | null
  | bool (b : Bool)
  | number (literal : ν)
  | text (pieces : List Piece)
  | array (items : List (Form ν))
  | object (members : List (List Piece × Form ν))
  deriving Repr

end Infochart.Json
