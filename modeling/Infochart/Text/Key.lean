import Infochart.Text.Blank
import Infochart.Text.Join
import Infochart.Text.Lowercase

/-!
# Keys

Names are compared by their key: the words of the name with single spaces between them, in lower
case. So letter case and spacing do not matter.
-/

namespace Infochart.Text

def key (name : List Char) : List Char :=
  lower (join ' ' (words name))

/-- The key of a name, as a string. -/
def keyOf (name : String) : String :=
  String.ofList (key name.toList)

end Infochart.Text
