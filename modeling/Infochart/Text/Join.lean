/-!
# Joining

Texts with a separator between them.
-/

namespace Infochart.Text

def join (sep : Char) : List (List Char) → List Char
  | [] => []
  | [s] => s
  | s :: r => s ++ sep :: join sep r

end Infochart.Text
