/-!
# Lines

A line ends at a line feed, and a carriage return right before the line feed belongs to the line
end. `cut` counts the piece behind the last line feed as a line also when it is empty; `lines`
does not.
-/

namespace Infochart.Text

/-- Cuts at each line feed, a carriage return before it included; one line at least. -/
def cut : List Char → List (List Char)
  | [] => [[]]
  | '\n' :: r => [] :: cut r
  | '\r' :: '\n' :: r => [] :: cut r
  | c :: r =>
    match cut r with
    | [] => [[c]]
    | l :: ls => (c :: l) :: ls

/-- The lines without an empty one behind the last line feed. -/
def lines (s : List Char) : List (List Char) :=
  let pieces := cut s
  if pieces.getLast? = some [] then pieces.dropLast else pieces

end Infochart.Text
