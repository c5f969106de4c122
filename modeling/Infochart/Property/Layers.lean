import Infochart.Property.Map

/-!
# Layers of a description

The entries of a map sorted into the layers of their identifiers; within a layer they stand in the
order of the identifiers.
-/

namespace Infochart.Property

/-- Puts an entry at the place of its identifier in ascending order, in exchange for one of the same
    identifier. -/
def insertById (id : Id) (value : Value) : List (Id × Value) → List (Id × Value)
  | [] => [(id, value)]
  | (k, v) :: r =>
    if id.toNat < k.toNat then (id, value) :: (k, v) :: r
    else if k.toNat < id.toNat then (k, v) :: insertById id value r
    else (id, value) :: r

/-- The entries of a description, one list for each layer. -/
structure Layers where
  subject : List (Id × Value) := []
  data : List (Id × Value) := []
  design : List (Id × Value) := []
  content : List (Id × Value) := []
  technical : List (Id × Value) := []
  dataLabels : List (Id × Value) := []
  dataValues : List (Id × Value) := []
  other : List (Id × Value) := []

namespace Layers

def entries (ls : Layers) : Layer → List (Id × Value)
  | .subject => ls.subject
  | .data => ls.data
  | .design => ls.design
  | .content => ls.content
  | .technical => ls.technical
  | .dataLabels => ls.dataLabels
  | .dataValues => ls.dataValues
  | .other => ls.other

/-- Changes the entries of one layer. -/
def modify (ls : Layers) (f : List (Id × Value) → List (Id × Value)) : Layer → Layers
  | .subject => { ls with subject := f ls.subject }
  | .data => { ls with data := f ls.data }
  | .design => { ls with design := f ls.design }
  | .content => { ls with content := f ls.content }
  | .technical => { ls with technical := f ls.technical }
  | .dataLabels => { ls with dataLabels := f ls.dataLabels }
  | .dataValues => { ls with dataValues := f ls.dataValues }
  | .other => { ls with other := f ls.other }

/-- Puts an entry into the layer of its identifier. -/
def insert (ls : Layers) (id : Id) (value : Value) : Layers :=
  ls.modify (insertById id value) id.layer

end Layers

def Map.layers (m : Map) : Layers :=
  m.entries.foldl (fun ls (id, v) => ls.insert id v) {}

/-- The layers that are written also when they are empty. -/
def namedLayers : List Layer :=
  [.subject, .data, .design, .content, .technical, .dataLabels, .dataValues]

def Layers.json (ls : Layers) : Json.Value :=
  let member (layer : Layer) : String × Json.Value :=
    (layer.name, .object ((ls.entries layer).map fun (id, v) => (id.text, v.data)))
  .object (namedLayers.map member
    ++ if ls.other.isEmpty then [] else [member .other])

def Layers.text (ls : Layers) : String :=
  ls.json.pretty

end Infochart.Property
