import Infochart.Drawing.OfLayout
import Infochart.Text.Blank
import Infochart.Text.Search

/-!
# Documents

A drawing inside a page can do without a name space and a declaration. `finalize` adds what is missing
for a file of its own.
-/

namespace Infochart.Drawing

def declaration : List Char :=
  "<?xml version=\"1.0\" standalone=\"no\"?>".toList

def nameSpaceAttribute : List Char :=
  "xmlns=\"".toList ++ nameSpace.toList ++ ['"']

/-- Puts the name space into the first root tag, unless it stands somewhere already. -/
def withNameSpace (doc : List Char) : List Char :=
  if Text.contains nameSpaceAttribute doc then doc
  else match Text.splitBefore "<svg".toList doc with
    | some (before, rest) => before ++ rest.take 4 ++ ' ' :: nameSpaceAttribute ++ rest.drop 4
    | none => doc

/-- Puts the declaration in front, unless there is one. -/
def withDeclaration (doc : List Char) : List Char :=
  if "<?xml".toList.isPrefixOf doc then doc else declaration ++ '\n' :: doc

/-- The document of a drawing, without blanks around it. -/
def finalize (svg : List Char) : List Char :=
  withDeclaration (withNameSpace (Text.trim svg))

/-- The document of a drawing, as a string. -/
def document (svg : String) : String :=
  String.ofList (finalize svg.toList)

end Infochart.Drawing
