import Infochart.Chart.Advice
import Infochart.Chart.Kind
import Infochart.Chart.Palette
import Infochart.Chart.Spec
import Infochart.Chart.Template
import Infochart.Command.Arguments
import Infochart.Command.Run
import Infochart.Config.Node
import Infochart.Config.Overrides
import Infochart.Decimal.Binary
import Infochart.Decimal.Numeral
import Infochart.Decimal.Round
import Infochart.Decimal.Shortest
import Infochart.Decimal.Text
import Infochart.Drawing.Bounds
import Infochart.Drawing.Document
import Infochart.Drawing.Element
import Infochart.Drawing.Markup.Token
import Infochart.Drawing.Markup.Tree
import Infochart.Drawing.OfLayout
import Infochart.Drawing.Raster
import Infochart.Drawing.Vector
import Infochart.Export
import Infochart.Files.Directory
import Infochart.Files.Fault
import Infochart.Files.Path
import Infochart.Json.Form
import Infochart.Json.Number
import Infochart.Json.Reader
import Infochart.Json.Relaxed
import Infochart.Json.Value
import Infochart.Json.Writer
import Infochart.Layout.Bar
import Infochart.Layout.Comparison
import Infochart.Layout.Compute
import Infochart.Layout.Diagram
import Infochart.Layout.Line
import Infochart.Layout.Parts
import Infochart.Layout.Path
import Infochart.Layout.Pie
import Infochart.Layout.Plan
import Infochart.Layout.Process
import Infochart.Layout.Radar
import Infochart.Layout.Scale
import Infochart.Layout.Settings
import Infochart.Layout.Timeline
import Infochart.Notice
import Infochart.Page
import Infochart.Property.Id
import Infochart.Property.Layers
import Infochart.Property.Map
import Infochart.Property.Reader
import Infochart.Property.Value
import Infochart.Session
import Infochart.Sheet.Amount
import Infochart.Sheet.Column
import Infochart.Sheet.Csv
import Infochart.Sheet.File
import Infochart.Sheet.Grid
import Infochart.Sheet.Merge
import Infochart.Sheet.Problem
import Infochart.Text.Blank
import Infochart.Text.Clip
import Infochart.Text.Join
import Infochart.Text.Key
import Infochart.Text.Lines
import Infochart.Text.Lowercase
import Infochart.Text.Range
import Infochart.Text.Search
import Infochart.Text.Table.Cased
import Infochart.Text.Table.Digit
import Infochart.Text.Table.Ignorable
import Infochart.Text.Table.Letter
import Infochart.Text.Table.Lowercase
import Infochart.Text.Table.Mark
import Infochart.Theme
import Infochart.Main
import Infochart.Proofs.Property.Line
import Infochart.Proofs.Property.Map
import Infochart.Proofs.Property.Format
import Infochart.Proofs.Decimal.Digits
import Infochart.Proofs.Json.Array
import Infochart.Proofs.Decimal.Rounding
import Infochart.Proofs.Decimal.Exact
import Infochart.Proofs.Decimal.Whole
import Infochart.Proofs.Property.Written
import Infochart.Proofs.Property.RoundTrip
import Infochart.Proofs.Sheet.Merge
import Infochart.Proofs.Sheet.Headers
import Infochart.Proofs.Decimal.Bounded
import Infochart.Proofs.Json.Number
import Infochart.Proofs.Decimal.Magnitude
import Infochart.Proofs.Json.Amount
import Infochart.Proofs.Sheet.Carried
import Infochart.Proofs.Sheet.Kept
import Infochart.Proofs.Sheet.Replaced
import Infochart.Proofs.Drawing.Scan
import Infochart.Proofs.Drawing.Scanned
import Infochart.Proofs.Sheet.Restored
import Infochart.Proofs.Drawing.Plain
import Infochart.Proofs.Drawing.Shapes
import Infochart.Proofs.Drawing.Texts
import Infochart.Proofs.Decimal.Length
import Infochart.Proofs.Json.Collected
import Infochart.Proofs.Property.Numbers
import Infochart.Proofs.Decimal.Nearest
import Infochart.Proofs.Property.Short
import Infochart.Proofs.Property.Survival
import Infochart.Proofs.Layout.Drivers
import Infochart.Proofs.Session.Runs
import Infochart.Proofs.Drawing.Document
import Infochart.Proofs.Drawing.Styles
import Infochart.Proofs.Session.EntryPoints
import Infochart.Proofs.Decimal.Arithmetic
import Infochart.Proofs.Drawing.Finite
import Infochart.Proofs.Sheet.RoundTrip
import Infochart.Proofs.Layout.Described
import Infochart.Proofs.Layout.Gate
import Infochart.Proofs.Config.CanvasOrder
import Infochart.Proofs.Chart.Advice
import Infochart.Proofs.Layout.EmptyText
import Infochart.Proofs.Layout.BarGroups
import Infochart.Proofs.Layout.Stacked
import Infochart.Proofs.Layout.Slices
import Infochart.Proofs.Layout.Lengths
import Infochart.Proofs.Decimal.Order
import Infochart.Proofs.Json.Finite
import Infochart.Proofs.Config.Literals
import Infochart.Proofs.Config.Ranges
import Infochart.Proofs.Layout.Points
import Infochart.Proofs.Layout.ValueAxis
import Infochart.Proofs.Sheet.Edits
import Infochart.Proofs.Decimal.Numeral
import Infochart.Proofs.Decimal.Scientific
import Infochart.Proofs.Sheet.Amount
import Infochart.Proofs.Property.Layers
import Infochart.Proofs.Drawing.Finished
import Infochart.Proofs.Sheet.Alike
import Infochart.Proofs.Chart.Names
import Infochart.Proofs.Chart.Templates
import Infochart.Proofs.Sheet.Column
