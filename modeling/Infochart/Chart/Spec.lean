import Infochart.Chart.Kind
import Infochart.Chart.Palette
import Infochart.Property.Map

/-!
# Chart specifications

A specification gathers from a property map what a chart is drawn from. Only properties of the expected
kind count: a text where a list should be is as good as nothing. A map whose type names no kind of
chart has no specification.
-/

namespace Infochart.Chart

open Property (Scalar Known Map)

/-- A dataset and the number of the property that it came from, counted from one. -/
structure Dataset where
  index : Nat
  items : List Scalar
  deriving Repr

def Dataset.amounts (d : Dataset) : List Float :=
  d.items.map Scalar.amount

def Dataset.texts (d : Dataset) : List String :=
  d.items.map Scalar.shown

structure Spec where
  kind : Kind
  colorScheme : List String
  title : String
  subtitle : Option String
  orientation : Orientation
  labels : List String
  series : List Dataset
  seriesLabels : List String
  unit : Option String
  scaleLabels : List String
  deriving Repr

/-- The text of a property that holds one that is not empty. -/
def nonEmptyText? (m : Map) (k : Known) : Option String :=
  (m.text? k).filter (!·.isEmpty)

/-- The name of the color scheme: that of the map if it is more than blanks, or a default. -/
def schemeName (defaultScheme : String) (m : Map) : String :=
  ((m.text? .colorScheme).filter fun s => !Text.allBlank s.toList).getD defaultScheme

/-- The texts of the items of a list, none for what is not a list. -/
def listTexts (m : Map) (k : Known) : List String :=
  ((m.list? k).getD []).map Scalar.shown

/-- The datasets that are lists, in the order of their numbers. -/
def datasetsOf (m : Map) : List Dataset :=
  (List.range' 1 Property.maxDatasets).filterMap fun i =>
    (m.list? (.dataset i)).map fun items => ⟨i, items⟩

namespace Spec

/-- The specification of a map as a chart of a given kind. -/
def withKind (defaultScheme : String) (kind : Kind) (m : Map) : Spec where
  kind := kind
  colorScheme := (Palette.resolve (schemeName defaultScheme m)).colors
  title := (nonEmptyText? m .title).getD kind.defaultTitle
  subtitle := nonEmptyText? m .subtitle
  orientation := Orientation.of (some kind) (m.text? .layout)
  labels := listTexts m .labels
  series := datasetsOf m
  seriesLabels := listTexts m .seriesLabels
  unit := nonEmptyText? m .unit
  scaleLabels := listTexts m .scaleLabels

def kindOf (m : Map) : Option Kind :=
  (m.text? .visualizationType).bind Kind.resolve

/-- The specification of a map, if its type names a kind of chart. -/
def ofMap? (defaultScheme : String) (m : Map) : Option Spec :=
  (kindOf m).map fun kind => withKind defaultScheme kind m

def dataset? (s : Spec) (index : Nat) : Option Dataset :=
  s.series.find? (·.index == index)

/-- The first datasets among the five that charts with many series draw. -/
def datasets (s : Spec) (limit : Nat) : List Dataset :=
  (s.series.filter (·.index ≤ 5)).take limit

/-- The name of a series, or another text where none is given. -/
def seriesLabel (s : Spec) (i : Nat) (fallback : String) : String :=
  s.seriesLabels[i]?.getD fallback

/-- The specification as data. What is absent has no member. -/
def data (s : Spec) : Json.Value :=
  let texts (xs : List String) : Json.Value := .array (xs.map .text)
  let optional (key : String) (x : Option String) : List (String × Json.Value) :=
    match x with
    | some t => [(key, .text t)]
    | none => []
  .object <|
    [("type", .text s.kind.name), ("colorScheme", texts s.colorScheme), ("title", .text s.title)]
      ++ optional "subtitle" s.subtitle
      ++ [("layoutOrientation", .text s.orientation.name), ("labels", texts s.labels),
          ("series", .array (s.series.map fun d => (Property.Value.list d.items).data)),
          ("seriesLabels", texts s.seriesLabels)]
      ++ optional "unit" s.unit
      ++ (if s.scaleLabels.isEmpty then [] else [("scaleLabels", texts s.scaleLabels)])

end Spec

/-- A map and its specification as one text of data, with all members in the order of their keys. -/
def exportText (m : Map) (spec : Option Spec) : String :=
  (Json.Value.object
    [("properties", m.data), ("chart", (spec.map Spec.data).getD .null)]).sorted.pretty

end Infochart.Chart
