import Infochart.Property.Id
import Infochart.Property.Value

/-!
# Property maps

A description is a map from identifiers to values that keeps the order in which identifiers first
came. `insert` replaces a value where it stands, so `get?` sees the last value and the order is that
of the first.
-/

namespace Infochart.Property

/-- The value of an identifier in a list of entries. -/
def lookup (id : Id) : List (Id × Value) → Option Value
  | [] => none
  | (k, v) :: r => if k = id then some v else lookup id r

/-- Replaces the value of an identifier where it stands, or puts it behind the others. -/
def put (id : Id) (value : Value) : List (Id × Value) → List (Id × Value)
  | [] => [(id, value)]
  | (k, v) :: r => if k = id then (k, value) :: r else (k, v) :: put id value r

theorem mem_keys_put {id k : Id} {value : Value} {es : List (Id × Value)} :
    k ∈ (put id value es).map Prod.fst ↔ k = id ∨ k ∈ es.map Prod.fst := by
  induction es with
  | nil => simp [put]
  | cons e r ih =>
    obtain ⟨j, w⟩ := e
    by_cases h : j = id
    · subst h
      simp [put]
    · simp only [put, if_neg h, List.map_cons, List.mem_cons, ih]
      grind

theorem nodup_keys_put {id : Id} {value : Value} {es : List (Id × Value)}
    (h : (es.map Prod.fst).Nodup) : ((put id value es).map Prod.fst).Nodup := by
  induction es with
  | nil => simp [put]
  | cons e r ih =>
    obtain ⟨j, w⟩ := e
    by_cases hj : j = id
    · simpa [put, hj] using h
    · simp only [List.map_cons, List.nodup_cons] at h
      simp only [put, if_neg hj, List.map_cons, List.nodup_cons, mem_keys_put]
      exact ⟨by grind, ih h.2⟩

/-- A map from identifiers to values, in the order of first insertion. -/
structure Map where
  entries : List (Id × Value)
  nodup : (entries.map Prod.fst).Nodup

namespace Map

def empty : Map :=
  ⟨[], by simp⟩

def insert (m : Map) (id : Id) (value : Value) : Map :=
  ⟨put id value m.entries, nodup_keys_put m.nodup⟩

def get? (m : Map) (id : Id) : Option Value :=
  lookup id m.entries

def find? (m : Map) (k : Known) : Option Value :=
  m.get? k.id

def contains (m : Map) (id : Id) : Bool :=
  (m.get? id).isSome

/-- Whether an identifier has a value that is not empty. -/
def hasValue (m : Map) (id : Id) : Bool :=
  (m.get? id).any (!·.isEmpty)

/-- The text of a known property, if it holds a text. -/
def text? (m : Map) (k : Known) : Option String :=
  (m.find? k).bind Value.text?

/-- The items of a known property, if it holds a list. -/
def list? (m : Map) (k : Known) : Option (List Scalar) :=
  (m.find? k).bind Value.list?

def size (m : Map) : Nat :=
  m.entries.length

/-- The identifiers without a known meaning, in order. -/
def unknownIds (m : Map) : List Id :=
  (m.entries.map Prod.fst).filter (·.known?.isNone)

/-- Whether two maps have the same entries, in whatever order. -/
def same (m n : Map) : Bool :=
  m.size == n.size &&
    m.entries.all fun (id, v) => (n.get? id).any (v.same ·)

/-- The map as data, with the entries in order. -/
def data (m : Map) : Json.Value :=
  .object (m.entries.map fun (id, v) => (id.text, v.data))

end Map

def lineOf (id : Id) (value : Value) : List Char :=
  id.digits ++ ',' :: value.lineText

/-- The property lines of a map, each with a line feed behind it. -/
def Map.lines (m : Map) : List Char :=
  m.entries.flatMap fun (id, v) => lineOf id v ++ ['\n']

def Map.csv (m : Map) : String :=
  String.ofList m.lines

end Infochart.Property
