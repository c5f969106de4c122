import Infochart.Text.Range
import Infochart.Text.Table.Lowercase
import Infochart.Text.Table.Cased
import Infochart.Text.Table.Ignorable

/-!
# Lower case of a text

Each character goes to its lower case. Two characters need more than the table: U+0130 becomes two
characters, and a capital sigma becomes the final form at the end of a word. A sigma ends a word
when the nearest character on its left that case rules do not look through has a case, and the
nearest on its right has none.
-/

namespace Infochart.Text

/-- Whether a character is upper, lower or title case. -/
def isCased (c : Char) : Bool :=
  inRanges Table.cased c.toNat

def isIgnorable (c : Char) : Bool :=
  inRanges Table.ignorable c.toNat

/-- The lower case of one character by the table; the capital sigma becomes the inner form. -/
def lowerChar (c : Char) : List Char :=
  if c.toNat < 0x80 then [c.toLower]
  else if c.toNat = 0x130 then ['i', Char.ofNat 0x307]
  else match Table.lowercase.findSome? (·.map? c.toNat) with
    | some n => [Char.ofNat n]
    | none => [c]

/-- Whether a cased character comes first, once the characters that case rules look through are
    passed over. -/
def casedNext (s : List Char) : Bool :=
  match s.dropWhile isIgnorable with
  | [] => false
  | c :: _ => isCased c

/-- The lower case of `s`, where `before` is the text in front of it, read backwards. -/
def lowerAfter (before : List Char) : List Char → List Char
  | [] => []
  | c :: r =>
    (if c = 'Σ' then [if casedNext before && !casedNext r then 'ς' else 'σ'] else lowerChar c)
      ++ lowerAfter (c :: before) r

def lower (s : List Char) : List Char :=
  lowerAfter [] s

end Infochart.Text
