import Infochart.Chart.Kind
import Infochart.Property.Map

/-!
# Advice

Findings about a description that keep it from being drawn well, and recommendations for the properties
that go with a type of chart. Nothing here stops a chart from being drawn.
-/

namespace Infochart.Chart

open Property (Known Map)

inductive Severity where
  | error
  | warning
  deriving DecidableEq, Repr

def Severity.name : Severity → String
  | .error => "error"
  | .warning => "warning"

inductive Finding where
  | missing (ids : List Property.Id)
  | pieOfTrend
  | timelineOfComposition
  | verticalPie
  | designWithoutType
  deriving DecidableEq, Repr

namespace Finding

def severity : Finding → Severity
  | .missing _ => .warning
  | .pieOfTrend => .error
  | .timelineOfComposition => .error
  | .verticalPie => .warning
  | .designWithoutType => .error

def message : Finding → String
  | .missing ids =>
    "Missing required properties: " ++ ", ".intercalate (ids.map Property.Id.text)
  | .pieOfTrend => "Pie charts show composition, not trend"
  | .timelineOfComposition => "Timelines show sequence, not composition"
  | .verticalPie => "Pie charts use a circular layout"
  | .designWithoutType =>
    "Visualization type (101) must be specified before layout or color scheme"

def detail : Finding → Option String
  | .missing _ =>
    some <| "visualization type (101), layout (301), color scheme (302) and output format (501) "
      ++ "should be set"
  | .pieOfTrend => some "use a line chart to show a trend over time"
  | .timelineOfComposition => some "use a pie chart to show composition"
  | .verticalPie => some "301 = Vertical has no effect on a pie chart"
  | .designWithoutType => none

def shown (f : Finding) : String :=
  f.severity.name ++ ": " ++ f.message ++
    match f.detail with
    | some d => " (" ++ d ++ ")"
    | none => ""

end Finding

/-- The properties that every description should have. -/
def required : List Known :=
  [.visualizationType, .layout, .colorScheme, .outputFormat]

/-- The key of the text of a property, empty if it holds no text. -/
def keyText (m : Map) (k : Known) : String :=
  (m.text? k).elim "" Text.keyOf

/-- The findings about a map, in a fixed order. -/
def findings (m : Map) : List Finding :=
  let missing := (required.filter fun k => !m.hasValue k.id).map Known.id
  let kind := (m.text? .visualizationType).bind Kind.resolve
  let relationship := keyText m .dataRelationship
  let layout := keyText m .layout
  let hasDesign := m.contains Known.layout.id || m.contains Known.colorScheme.id
  (if missing.isEmpty then [] else [.missing missing])
    ++ (if kind = some .pie ∧ relationship = "trend" then [.pieOfTrend] else [])
    ++ (if kind = some .timeline ∧ relationship = "composition" then [.timelineOfComposition] else [])
    ++ (if kind = some .pie ∧ layout = "vertical" then [.verticalPie] else [])
    ++ (if hasDesign && !m.contains Known.visualizationType.id then [.designWithoutType] else [])

def errorCount (fs : List Finding) : Nat :=
  (fs.filter (·.severity = .error)).length

inductive Relationship where
  | composition
  | comparison
  | trend
  | correlation
  | sequential
  | geographic
  deriving DecidableEq, Repr

def Relationship.name : Relationship → String
  | .composition => "Composition"
  | .comparison => "Comparison"
  | .trend => "Trend"
  | .correlation => "Correlation"
  | .sequential => "Sequential"
  | .geographic => "Geographic"

/-- The words that hint at a relationship. The first word that occurs decides. -/
def hints : List (String × Relationship) :=
  [("pie", .composition), ("donut", .composition),
   ("bar", .comparison), ("column", .comparison),
   ("line", .trend), ("area", .trend),
   ("scatter", .correlation), ("bubble", .correlation),
   ("timeline", .sequential), ("gantt", .sequential), ("process", .sequential),
   ("flow", .sequential),
   ("map", .geographic)]

/-- The relationship that a type of chart suggests. -/
def relationshipFor (type : String) : Relationship :=
  let key := Text.key type.toList
  ((hints.find? fun (word, _) => Text.contains word.toList key).map Prod.snd).getD .comparison

def schemesFor : Option Kind → List String
  | some .bar => ["Corporate", "Vibrant", "Monochromatic"]
  | some .pie => ["Vibrant", "High Contrast", "Cool Tones"]
  | some .line => ["Corporate", "Cool Tones", "Monochromatic"]
  | some .process => ["Vibrant", "Corporate", "Nature Inspired"]
  | some .comparison => ["High Contrast", "Accessible", "Corporate"]
  | some .timeline => ["Cool Tones", "Warm Tones", "Corporate"]
  | some .radar | none => ["Corporate", "Vibrant", "Accessible"]

end Infochart.Chart
