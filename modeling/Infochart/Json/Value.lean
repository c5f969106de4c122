/-!
# Data values

`Value` is data with its meaning settled: numbers are integers or binary numbers, texts are strings.
An object is the list of its members in the order in which they are written out.
-/

namespace Infochart.Json

inductive Value where
  | null
  | bool (b : Bool)
  | integer (n : Int)
  | real (x : Float)
  | text (s : String)
  | array (items : List Value)
  | object (members : List (String × Value))
  deriving Repr

/-- Puts a member at the place of its key in ascending order, in exchange for one of the same key. -/
def insertSorted (key : String) (value : Value) : List (String × Value) → List (String × Value)
  | [] => [(key, value)]
  | (k, v) :: r =>
    if key < k then (key, value) :: (k, v) :: r
    else if k < key then (k, v) :: insertSorted key value r
    else (key, value) :: r

mutual

/-- Brings the members of all objects in the ascending order of their keys; of members with the
    same key the last one stays. -/
def Value.sorted : Value → Value
  | .array items => .array (sortedItems items)
  | .object members => .object (sortedMembers members [])
  | v => v

def sortedItems : List Value → List Value
  | [] => []
  | v :: r => v.sorted :: sortedItems r

/-- The members, put one after the other into those that are in order already. -/
def sortedMembers : List (String × Value) → List (String × Value) → List (String × Value)
  | [], done => done
  | (k, v) :: r, done => sortedMembers r (insertSorted k v.sorted done)

end

end Infochart.Json
