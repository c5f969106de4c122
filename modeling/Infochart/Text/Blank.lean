/-!
# Blank characters and trimming

`isBlank` is the Unicode property `White_Space`. On it stand the three trims and the cut of a text into
its words; a text is a list of characters here.
-/

namespace Infochart.Text

/-- A character of the Unicode property `White_Space`. The byte order mark and the zero-width
    space are not in it. -/
def isBlank (c : Char) : Bool :=
  let n := c.toNat
  (9 ≤ n && n ≤ 13) || n == 0x20 || n == 0x85 || n == 0xA0 || n == 0x1680
    || (0x2000 ≤ n && n ≤ 0x200A) || n == 0x2028 || n == 0x2029 || n == 0x202F
    || n == 0x205F || n == 0x3000

def trimStart (s : List Char) : List Char :=
  s.dropWhile isBlank

def trimEnd (s : List Char) : List Char :=
  (s.reverse.dropWhile isBlank).reverse

def trim (s : List Char) : List Char :=
  trimEnd (trimStart s)

/-- The maximal runs of characters that are not blank, in order. -/
def words : List Char → List (List Char)
  | [] => []
  | c :: r =>
    if isBlank c then words r
    else match r with
      | [] => [[c]]
      | d :: _ =>
        if isBlank d then [c] :: words r
        else match words r with
          | [] => [[c]]
          | w :: ws => (c :: w) :: ws

def allBlank (s : List Char) : Bool :=
  s.all isBlank

def trimmed (s : String) : String :=
  String.ofList (trim s.toList)

/-- Case folding of the letters `A` to `Z`, all else left as it is. -/
def asciiLower (s : String) : String :=
  String.ofList (s.toList.map Char.toLower)

end Infochart.Text
