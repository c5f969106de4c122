import Infochart.Chart.Kind
import Infochart.Text.Blank

/-!
# Templates

A sample description for each kind of chart. A template is found by its name, or by any text that names
its kind.

A template is a text like any other description and takes the same way to its chart, so it also serves as
an example of what the properties of a kind are meant to hold.
-/

namespace Infochart.Chart

structure Template where
  name : String
  kind : Kind
  csv : String

/-- The lines of a text, each with its line feed. -/
def fromLines (ls : List String) : String :=
  String.join (ls.map (· ++ "\n"))

def barTemplate : Template where
  name := "bar"
  kind := .bar
  csv := fromLines
    ["101,Bar Chart",
     "102,Business Presentation",
     "103,Executives",
     "201,Numerical",
     "202,Comparison",
     "301,Vertical",
     "302,Corporate",
     "303,Sans Serif Clean",
     "305,Grid Lines",
     "401,Quarterly Revenue 2024",
     "402,Brief Overview",
     "403,Values Only",
     "405,Internal Company Data",
     "501,SVG",
     "502,Responsive Width",
     "601,[\"Q1\",\"Q2\",\"Q3\",\"Q4\"]",
     "602,\"Revenue (k$)\"",
     "603,[\"2023\",\"2024\"]",
     "701,[400,300,200,278]",
     "702,[420,350,260,310]"]

def pieTemplate : Template where
  name := "pie"
  kind := .pie
  csv := fromLines
    ["101,Pie Chart",
     "102,Marketing",
     "201,Categorical",
     "202,Composition",
     "301,Circular",
     "302,Vibrant",
     "303,Bold Headlines",
     "401,Market Share Analysis",
     "402,Key Insights",
     "501,SVG",
     "505,Presentation Slide",
     "601,[\"Group A\",\"Group B\",\"Group C\",\"Group D\"]",
     "701,[400,300,300,200]"]

def lineTemplate : Template where
  name := "line"
  kind := .line
  csv := fromLines
    ["101,Line Chart",
     "102,Report",
     "201,Numerical",
     "202,Trend",
     "301,Vertical",
     "302,Corporate",
     "305,Grid Lines",
     "401,Monthly Growth",
     "402,Data Interpretation",
     "501,SVG",
     "505,Dashboard Tile",
     "601,[\"Jan\",\"Feb\",\"Mar\",\"Apr\",\"May\",\"Jun\"]",
     "603,[\"Series 1\",\"Series 2\",\"Series 3\"]",
     "701,[400,300,200,278,189,239]",
     "702,[300,250,300,280,220,250]",
     "703,[200,220,250,300,270,280]"]

def radarTemplate : Template where
  name := "radar"
  kind := .radar
  csv := fromLines
    ["101,Radar Chart",
     "102,Product Review",
     "201,Numerical",
     "202,Comparison",
     "301,Circular",
     "302,Cool Tones",
     "401,Product Capability Profile",
     "501,SVG",
     "601,[\"Speed\",\"Reliability\",\"Comfort\",\"Safety\",\"Efficiency\"]",
     "603,[\"Model X\",\"Model Y\"]",
     "701,[80,90,70,85,60]",
     "702,[65,75,90,70,80]"]

def processTemplate : Template where
  name := "process"
  kind := .process
  csv := fromLines
    ["101,Process Diagram",
     "102,Educational",
     "201,Categorical",
     "202,Sequential",
     "301,Horizontal",
     "302,Vibrant",
     "304,Flat Icons",
     "305,Arrows",
     "306,Color Highlighting",
     "401,Product Development Process",
     "402,Step-by-Step Guide",
     "501,SVG",
     "504,Sequential Reveal",
     "601,[\"Plan\",\"Build\",\"Test\",\"Launch\",\"Maintain\"]",
     "701,[\"Goals and\\\\nstrategy\",\"Design and\\\\ndevelopment\",\"Quality\\\\nchecks\",\"Marketing and\\\\nrelease\",\"Ongoing\\\\nsupport\"]"]

def timelineTemplate : Template where
  name := "timeline"
  kind := .timeline
  csv := fromLines
    ["101,Timeline",
     "102,Project Planning",
     "201,Temporal",
     "202,Sequential",
     "301,Horizontal",
     "302,Cool Tones",
     "304,Minimalist Icons",
     "401,Project Schedule",
     "402,Step-by-Step Guide",
     "501,SVG",
     "504,Sequential Reveal",
     "601,[\"2023-01\",\"2023-03\",\"2023-06\",\"2023-09\",\"2023-12\"]",
     "701,[\"Kickoff\",\"First build\",\"Beta test\",\"Launch\",\"Feature update\"]",
     "702,[\"Planning and team setup\",\"Core features implemented\",\"Collecting user feedback\",\"Release and marketing\",\"New features added\"]"]

def comparisonTemplate : Template where
  name := "comparison"
  kind := .comparison
  csv := fromLines
    ["101,Comparison Chart",
     "102,Marketing",
     "201,Categorical",
     "202,Comparison",
     "301,Split Screen",
     "302,Brand Colors",
     "304,Filled Icons",
     "401,Product A vs Product B",
     "402,Key Differences",
     "501,PNG",
     "505,Social Media",
     "601,[\"Feature A\",\"Feature B\",\"Feature C\",\"Feature D\",\"Feature E\"]",
     "603,[\"Product A\",\"Product B\"]",
     "701,[80,65,50,90,70]",
     "702,[60,75,85,40,70]"]

namespace Template

/-- All templates. -/
def all : List Template :=
  [barTemplate, pieTemplate, lineTemplate, radarTemplate, processTemplate, timelineTemplate,
   comparisonTemplate]

/-- The template of a name, or of the kind that the name resolves to. -/
def find? (name : String) : Option Template :=
  let key := Text.asciiLower (Text.trimmed name)
  match all.find? (·.name == key) with
  | some t => some t
  | none => (Kind.resolve name).bind fun kind => all.find? (·.kind == kind)

end Template

end Infochart.Chart
