import Infochart.Chart.Advice
import Infochart.Drawing.Document
import Infochart.Drawing.Raster
import Infochart.Property.Reader
import Infochart.Sheet.File
import Infochart.Sheet.Merge

/-!
# Sessions

A session holds the description at hand, the last sheet that was given to it and the last chart that
was generated. A step that fails gives no new session, so the old one stays.
-/

namespace Infochart

open Chart (Spec)

/-- The drawing of a description. What is wrong with the description shows in the drawing. -/
def render (theme : Theme Float) (settings : Layout.Settings Float) (csv : String) : String :=
  (Drawing.ofLayout theme (Layout.ofMap (Property.read csv).map theme settings)).svg

/-- Everything that is known about a description once it is drawn. -/
structure Generated where
  parsed : Property.Parsed
  findings : List Chart.Finding
  spec : Option Spec
  layout : Layout Float
  svg : String

namespace Generated

def ofCsv (c : Config) (csv : String) : Generated :=
  let parsed := Property.read csv
  let spec := Spec.ofMap? c.settings.defaultColorScheme parsed.map
  let layout :=
    match spec with
    | some spec => Layout.ofSpec spec c.theme c.settings
    | none => Layout.unsupported (parsed.map.text? .visualizationType) c.settings
  { parsed := parsed
    findings := Chart.findings parsed.map
    spec := spec
    layout := layout
    svg := (Drawing.ofLayout c.theme layout).svg }

/-- The notices that came up, in order. -/
def notices (c : Config) (g : Generated) : List Notice :=
  g.parsed.notices
    ++ (match g.spec with
      | some _ =>
        Chart.Palette.notices (Chart.schemeName c.settings.defaultColorScheme g.parsed.map)
      | none => [])
    ++ g.layout.notices

def pictureSize (r : RasterSettings) (g : Generated) : Except Export.Failure (Nat × Nat) :=
  Drawing.pictureSize r g.svg (Layout.greater g.layout.width 1) (Layout.greater g.layout.height 1)

def exportText (g : Generated) : String :=
  Chart.exportText g.parsed.map g.spec

end Generated

/-- A description at hand, with the sheet and the chart that go with it. -/
structure Session where
  config : Config
  csv : String
  upload? : Option Sheet.Grid
  generated? : Option Generated

namespace Session

def start (config : Config) : Session :=
  ⟨config, "", none, none⟩

def setCsv (s : Session) (csv : String) : Session :=
  { s with csv := csv }

def setUpload (s : Session) (g : Sheet.Grid) : Session :=
  { s with upload? := some g }

/-- Takes the sheet at a path, where `load` gives the sheets at paths. -/
def uploadFrom (load : String → Except Sheet.Problem Sheet.Grid) (path : String) (s : Session) :
    Except Sheet.Problem Session :=
  (load path).map s.setUpload

/-- Takes the sheet in a file, where `read` gives the texts of files. -/
def upload (read : String → Except Files.Fault String) (path : String) (s : Session) :
    Except Sheet.Problem Session :=
  s.uploadFrom (Sheet.Grid.ofFile read) path

def applyUpload (s : Session) : Except Sheet.Problem Session :=
  match s.upload? with
  | none => .error .noUpload
  | some g => (g.mergeInto s.csv).map s.setCsv

def generate (s : Session) : Session :=
  { s with generated? := some (.ofCsv s.config s.csv) }

def exportAs (s : Session) (format : Export.Format) : Except Export.Failure Export.Exported :=
  match s.generated? with
  | none => .error .nothingGenerated
  | some g =>
    match format with
    | .svg => .ok (.svg (Drawing.document g.svg))
    | .png => (g.pictureSize s.config.raster).map fun (w, h) => .png w h
    | .json => .ok (.json g.exportText)

end Session

end Infochart
