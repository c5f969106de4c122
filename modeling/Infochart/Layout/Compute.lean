import Infochart.Layout.Bar
import Infochart.Layout.Pie
import Infochart.Layout.Line
import Infochart.Layout.Radar
import Infochart.Layout.Process
import Infochart.Layout.Timeline
import Infochart.Layout.Comparison
import Infochart.Notice

/-!
# The layout of a chart

A plan is laid out by the rules of its kind, and a map by the plan of its specification. A map whose
type names no kind of chart gets a box that says so.
-/

namespace Infochart

namespace Layout

open Property (Map)

def ofPlan {α : Type} [Scale α] [Written α] (p : Plan α) (t : Theme α) (s : Settings α) : Layout α :=
  match p.kind with
  | .bar => barLayout p t s
  | .pie => pieLayout p t s
  | .line => lineLayout p t s
  | .radar => radarLayout p t s
  | .process => processLayout p t s
  | .timeline => timelineLayout p t s
  | .comparison => comparisonLayout p t s

def ofSpec (spec : Chart.Spec) (t : Theme Float) (s : Settings Float) : Layout Float :=
  ofPlan (Plan.ofSpec spec) t s

def ofMap (m : Map) (t : Theme Float) (s : Settings Float) : Layout Float :=
  match Chart.Spec.ofMap? s.defaultColorScheme m with
  | some spec => ofSpec spec t s
  | none => unsupported (m.text? .visualizationType) s

end Layout

/-- The notice that comes with a box in place of a chart. -/
def Layout.notices {α : Type} (l : Layout α) : List Notice :=
  match l.diagram with
  | .placeholder box =>
    match box.reason with
    | .insufficient kind _ => [.insufficientData kind.name]
    | .unsupported shown => [.unsupportedType shown]
  | _ => []

end Infochart
