import Infochart.Text.Key
import Infochart.Text.Search

/-!
# Chart kinds

The seven kinds of charts, and how a free text names one: by an alias that it equals, or else by the
full name of a kind that occurs in it. Letter case and spacing do not matter.
-/

namespace Infochart.Chart

inductive Kind where
  | bar
  | pie
  | line
  | radar
  | process
  | timeline
  | comparison
  deriving DecidableEq, Repr

namespace Kind

/-- All kinds. -/
def all : List Kind :=
  [.bar, .pie, .line, .radar, .process, .timeline, .comparison]

def name : Kind → String
  | .bar => "bar"
  | .pie => "pie"
  | .line => "line"
  | .radar => "radar"
  | .process => "process"
  | .timeline => "timeline"
  | .comparison => "comparison"

/-- The title of a chart that has none of its own. -/
def defaultTitle : Kind → String
  | .bar => "Bar Chart"
  | .pie => "Pie Chart"
  | .line => "Line Chart"
  | .radar => "Radar Chart"
  | .process => "Process Diagram"
  | .timeline => "Timeline"
  | .comparison => "Comparison Chart"

/-- The keys that name a kind when they are the whole text. -/
def aliases : List (String × Kind) :=
  [("bar", .bar), ("bar chart", .bar), ("column chart", .bar),
   ("pie", .pie), ("pie chart", .pie),
   ("line", .line), ("line chart", .line),
   ("radar", .radar), ("radar chart", .radar),
   ("process", .process), ("process diagram", .process),
   ("timeline", .timeline),
   ("comparison", .comparison), ("comparison chart", .comparison)]

/-- The keys that name a kind wherever they occur. The first one that occurs decides. -/
def markers : List (String × Kind) :=
  [("bar chart", .bar), ("pie chart", .pie), ("line chart", .line), ("radar chart", .radar),
   ("process diagram", .process), ("timeline", .timeline), ("comparison chart", .comparison)]

def ofKey? (key : List Char) : Option Kind :=
  match aliases.find? fun (a, _) => a.toList == key with
  | some (_, kind) => some kind
  | none => (markers.find? fun (m, _) => Text.contains m.toList key).map Prod.snd

def resolve (name : String) : Option Kind :=
  ofKey? (Text.key name.toList)

end Kind

inductive Orientation where
  | horizontal
  | vertical
  deriving DecidableEq, Repr

def Orientation.name : Orientation → String
  | .horizontal => "horizontal"
  | .vertical => "vertical"

/-- The orientation that a layout text asks for. Each kind looks for the one word that turns it away
    from its own default; bars stand upright only without a text or with that word. -/
def Orientation.of (kind : Option Kind) (layout : Option String) : Orientation :=
  let has (word : String) : Bool :=
    layout.any fun l => Text.contains word.toList (Text.lower l.toList)
  match kind with
  | some .bar => if layout.isNone || has "vertical" then .vertical else .horizontal
  | some .process => if has "horizontal" then .horizontal else .vertical
  | some .timeline => if has "vertical" then .vertical else .horizontal
  | _ => .vertical

end Infochart.Chart
