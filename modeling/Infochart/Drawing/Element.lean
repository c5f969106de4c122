/-!
# Drawings

A drawing is a list of elements of five kinds inside one root. Text becomes markup only here: the
content of a text element is escaped when it is written, and every other part of an element is an
attribute between quotes.
-/

namespace Infochart

namespace Drawing

inductive Tag where
  | rect
  | line
  | path
  | circle
  | text
  deriving DecidableEq, Repr

def Tag.name : Tag → String
  | .rect => "rect"
  | .line => "line"
  | .path => "path"
  | .circle => "circle"
  | .text => "text"

/-- A name with its value, which is written as it is. -/
structure Attribute where
  name : String
  value : String
  deriving DecidableEq, Repr

/-- An element. One with content has it between two tags; the others are closed at once. -/
structure Element where
  tag : Tag
  attributes : List Attribute
  content : Option String := none
  deriving DecidableEq, Repr

/-- The form of a character that cannot be taken for markup. -/
def escapeChar (c : Char) : List Char :=
  if c = '&' then "&amp;".toList
  else if c = '<' then "&lt;".toList
  else if c = '>' then "&gt;".toList
  else if c = '"' then "&quot;".toList
  else if c = '\'' then "&apos;".toList
  else [c]

def escape (s : List Char) : List Char :=
  s.flatMap escapeChar

/-- A text that cannot be taken for markup, as a string. -/
def escaped (s : String) : String :=
  String.ofList (escape s.toList)

def Attribute.chars (a : Attribute) : List Char :=
  ' ' :: a.name.toList ++ '=' :: '"' :: a.value.toList ++ ['"']

def Element.chars (e : Element) : List Char :=
  let opening := '<' :: e.tag.name.toList ++ e.attributes.flatMap Attribute.chars
  match e.content with
  | none => opening ++ ['/', '>']
  | some s => opening ++ '>' :: escape s.toList ++ '<' :: '/' :: e.tag.name.toList ++ ['>']

end Drawing

/-- A drawing: the attributes of its root and its elements in the order in which they are drawn. -/
structure Drawing where
  attributes : List Drawing.Attribute
  elements : List Drawing.Element
  deriving DecidableEq, Repr

def Drawing.chars (d : Drawing) : List Char :=
  "<svg".toList ++ d.attributes.flatMap Attribute.chars ++ '>' :: d.elements.flatMap Element.chars
    ++ "</svg>".toList

def Drawing.svg (d : Drawing) : String :=
  String.ofList d.chars

end Infochart
