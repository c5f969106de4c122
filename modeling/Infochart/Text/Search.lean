/-!
# Finding and cutting

Looking for a character or a fixed pattern in a text: containment, the cut at the first separator
and the cut at every pattern.
-/

namespace Infochart.Text

/-- Whether the pattern occurs somewhere in the text. -/
def contains (pattern : List Char) : List Char → Bool
  | [] => pattern.isEmpty
  | c :: r => pattern.isPrefixOf (c :: r) || contains pattern r

/-- The text before and after the first occurrence of a separator. -/
def splitFirst (sep : Char) : List Char → Option (List Char × List Char)
  | [] => none
  | c :: r =>
    if c = sep then some ([], r)
    else (splitFirst sep r).map fun (a, b) => (c :: a, b)

/-- The pieces between the occurrences of a pattern, found from the left without overlap. The
    count `skip` is the part of an occurrence that is still to be passed over. -/
def splitOn.go (pattern : List Char) (skip : Nat) : List Char → List Char × List (List Char)
  | [] => ([], [])
  | c :: r =>
    match skip with
    | k + 1 => go pattern k r
    | 0 =>
      if pattern.isPrefixOf (c :: r) then
        let (piece, rest) := go pattern (pattern.length - 1) r
        ([], piece :: rest)
      else
        let (piece, rest) := go pattern 0 r
        (c :: piece, rest)

/-- The pieces between the occurrences of a pattern that is not empty; one piece at least. -/
def splitOn (pattern s : List Char) : List (List Char) :=
  let (piece, rest) := splitOn.go pattern 0 s
  piece :: rest

/-- The text up to the first occurrence of a pattern, and the text from there on. -/
def splitBefore (pattern : List Char) : List Char → Option (List Char × List Char)
  | [] => if pattern.isEmpty then some ([], []) else none
  | c :: r =>
    if pattern.isPrefixOf (c :: r) then some ([], c :: r)
    else (splitBefore pattern r).map fun (a, b) => (c :: a, b)

/-- The part behind the last occurrence of a character, with the part before it. -/
def splitLast (sep : Char) : List Char → Option (List Char × List Char)
  | [] => none
  | c :: r =>
    match splitLast sep r with
    | some (a, b) => some (c :: a, b)
    | none => if c = sep then some ([], r) else none

end Infochart.Text
