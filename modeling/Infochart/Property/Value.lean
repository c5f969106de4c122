import Infochart.Text.Blank
import Infochart.Text.Join
import Infochart.Decimal.Text
import Infochart.Decimal.Numeral
import Infochart.Json.Writer

/-!
# Property values

A property holds a text or a list of scalars. Wherever a chart needs a number, a scalar counts as one:
a text counts as the number that it spells, and as zero when it spells none.
-/

namespace Infochart.Property

inductive Scalar where
  | number (x : Float)
  | text (s : String)
  deriving Repr

/-- Zero in place of a number that is not finite. -/
def finiteOrZero (x : Float) : Float :=
  if Decimal.isFinite x then x else 0

def Scalar.amount : Scalar → Float
  | .number x => finiteOrZero x
  | .text s => finiteOrZero ((Decimal.number? (Text.trim s.toList)).getD 0)

def Scalar.shown : Scalar → String
  | .number x => Decimal.amount x
  | .text s => s

def Scalar.isBlank : Scalar → Bool
  | .number _ => false
  | .text s => s.isEmpty

def Scalar.item : Scalar → List Char
  | .number x => (Decimal.amount x).toList
  | .text s => Json.quote s.toList

def arrayText (items : List Scalar) : List Char :=
  '[' :: Text.join ',' (items.map Scalar.item) ++ [']']

inductive Value where
  | text (s : String)
  | list (items : List Scalar)
  deriving Repr

namespace Value

def text? : Value → Option String
  | .text s => some s
  | .list _ => none

def list? : Value → Option (List Scalar)
  | .text _ => none
  | .list items => some items

/-- The numbers that the items of a list count as. -/
def amounts? (v : Value) : Option (List Float) :=
  v.list?.map (·.map Scalar.amount)

/-- The texts that the items of a list are shown as. -/
def labels? (v : Value) : Option (List String) :=
  v.list?.map (·.map Scalar.shown)

/-- Whether nothing is there: no character or no item. -/
def isEmpty : Value → Bool
  | .text s => s.isEmpty
  | .list items => items.isEmpty

/-- Whether the text would be read as something else than itself: it has quotes or brackets around it
    or blanks at an end. -/
def needsQuotes (s : List Char) : Bool :=
  (s.head? == some '"' && s.getLast? == some '"')
    || (s.head? == some '[' && s.getLast? == some ']')
    || Text.trim s != s

/-- The value as it stands behind the comma of a property line. A text that would be read as something
    else is put in quotes. -/
def lineText : Value → List Char
  | .list items => arrayText items
  | .text s =>
    let cs := s.toList
    if needsQuotes cs && !cs.isEmpty then '"' :: cs ++ ['"'] else cs

def shown : Value → String
  | .text s => s
  | .list items => String.ofList (arrayText items)

def data : Value → Json.Value
  | .text s => .text s
  | .list items => .array (items.map fun
    | .number x => .real x
    | .text s => .text s)

end Value

/-- Whether two scalars are of one kind and equal; numbers are compared as numbers. -/
def Scalar.same : Scalar → Scalar → Bool
  | .number x, .number y => x == y
  | .text s, .text t => s == t
  | _, _ => false

def sameItems : List Scalar → List Scalar → Bool
  | [], [] => true
  | a :: r, b :: t => a.same b && sameItems r t
  | _, _ => false

/-- Whether two values are of one kind and equal. -/
def Value.same : Value → Value → Bool
  | .text s, .text t => s == t
  | .list r, .list t => sameItems r t
  | _, _ => false

end Infochart.Property
