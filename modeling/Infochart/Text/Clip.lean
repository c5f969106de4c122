import Infochart.Text.Search

/-!
# Clipping labels

Labels that must fit are cut to a number of characters or of lines. Line ends inside a label are
written as a backslash and an `n`.
-/

namespace Infochart.Text

/-- At most `limit` characters, with an ellipsis behind a text that was longer. -/
def clip (s : String) (limit : Nat) : String :=
  let cs := s.toList
  if cs.length ≤ limit then s else String.ofList (cs.take limit ++ ['.', '.', '.'])

/-- The lines of a label, cut at each backslash with an `n`, and at most `limit` of them. -/
def labelLines (s : String) (limit : Nat) : List String :=
  ((splitOn ['\\', 'n'] s.toList).take limit).map String.ofList

end Infochart.Text
