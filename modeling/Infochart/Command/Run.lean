import Infochart.Chart.Template
import Infochart.Command.Arguments
import Infochart.Property.Layers
import Infochart.Session

/-!
# Runs of the command

A run reads a configuration and a description, merges a sheet into the description if there is one,
and then writes its layers, a report about it, or its chart. The result of a run says what is to be
written and how the run ends; writing is left to the caller.
-/

namespace Infochart.Command

open Property (Known)

/-- What a run can read: the standard input and the texts of files. -/
structure Sources where
  stdin : Except Files.Fault String
  file : String → Except Files.Fault String

inductive Failure where
  | file (fault : Files.Fault)
  | config
  | template (name : String)
  | sheet (problem : Sheet.Problem)
  | export (failure : Export.Failure)
  /-- A picture cannot go to the standard output. -/
  | noOutput
  | invalid (errors : Nat)
  deriving DecidableEq, Repr

def templateNames : List String :=
  Chart.Template.all.map Chart.Template.name

def Failure.message : Failure → String
  | .file fault => fault.message
  | .config => "invalid config"
  | .template name =>
    "Unknown template '" ++ name ++ "' (available: " ++ ", ".intercalate templateNames ++ ")"
  | .sheet problem => problem.message
  | .export failure => failure.message
  | .noOutput => "Output path required for png output"
  | .invalid errors => "validation failed with " ++ toString errors ++ " error(s)"

/-- What a run writes. Of a picture only the size is known. -/
inductive Content where
  | text (s : String)
  | picture (width height : Nat)
  deriving DecidableEq, Repr

/-- Content and where it goes: to a file, or to the standard output. -/
structure Output where
  path : Option String
  content : Content
  deriving DecidableEq, Repr

structure Outcome where
  notices : List String := []
  output : Option Output := none
  failure : Option Failure := none
  deriving DecidableEq, Repr

/-- The failure of a run once its output has been written, or could not be. -/
def Outcome.failureAfter (o : Outcome) (fault : Option Files.Fault) : Option Failure :=
  match fault with
  | some f => some (.file f)
  | none => o.failure

def Outcome.ofFailure (notices : List String) (f : Failure) : Outcome :=
  { notices := notices, failure := some f }

/-- The configuration of a run. Sizes among the arguments go before those of the file. -/
def configFor (sources : Sources) (a : Arguments) : Except Failure Config := do
  let config ← match a.config with
    | none => .ok Config.standard
    | some path =>
      match sources.file path with
      | .error fault => .error (.file fault)
      | .ok s => match Config.ofText? s with
        | some c => .ok c
        | none => .error .config
  return { config with
    raster := { config.raster with
      width := a.width.orElse fun _ => config.raster.width
      height := a.height.orElse fun _ => config.raster.height } }

inductive Base where
  | template (name : String)
  | file (path : String)
  | stdin
  | nothing
  deriving DecidableEq, Repr

/-- Where the description of a run comes from. A sheet alone does not wait for the standard input. -/
def Arguments.base (a : Arguments) : Base :=
  match a.template, a.input with
  | some name, _ => .template name
  | none, some path => if Files.isDash path then .stdin else .file path
  | none, none => if a.sheet.isSome then .nothing else .stdin

def baseFor (sources : Sources) (a : Arguments) : Except Failure String :=
  match a.base with
  | .template name =>
    match Chart.Template.find? name with
    | some t => .ok t.csv
    | none => .error (.template name)
  | .file path => (sources.file path).mapError .file
  | .stdin => sources.stdin.mapError .file
  | .nothing => .ok ""

/-- The texts of the notices that come up when a description is read. -/
def readNotices (csv : String) : List String :=
  (Property.read csv).notices.map Notice.message

/-- The format that a run writes: that of the flag, or that of the extension, or that of the
    description. A description alone cannot ask for a picture without a file. -/
def formatFor (a : Arguments) (declared : Option Export.Format) : Export.Format :=
  let named := a.output.bind fun path => Export.Format.ofText? (Files.extension path)
  let declared := declared.filter fun f => f != .png || a.output.isSome
  ((a.format.orElse fun _ => named).orElse fun _ => declared).getD .svg

def report (csv : String) : String :=
  let parsed := Property.read csv
  let type := (parsed.map.text? .visualizationType).getD ""
  let problems :=
    if parsed.isValid then
      ["parse: ok (" ++ toString parsed.map.size ++ " properties)"]
    else
      ("parse: " ++ toString parsed.problems.length ++ " error(s)")
        :: parsed.problems.map ("  " ++ ·.message)
  let advice :=
    ["suggested data relationship: " ++ (Chart.relationshipFor type).name,
     "suggested color schemes: " ++ ", ".intercalate (Chart.schemesFor (Chart.Kind.resolve type))]
  String.join ((problems ++ (Chart.findings parsed.map).map (·.shown) ++ advice).map (· ++ "\n"))

def errorCount (csv : String) : Nat :=
  let parsed := Property.read csv
  parsed.problems.length + Chart.errorCount (Chart.findings parsed.map)

/-- A run that writes the layers of a description. -/
def runLayers (a : Arguments) (csv : String) : Outcome where
  notices := readNotices csv
  output := some ⟨a.output, .text (Property.read csv).map.layers.text⟩

/-- A run that writes a report. It fails if there are errors, after the report is written. -/
def runReport (a : Arguments) (csv : String) : Outcome where
  notices := readNotices csv
  output := some ⟨a.output, .text (report csv)⟩
  failure := if errorCount csv = 0 then none else some (.invalid (errorCount csv))

/-- What a run says about a chart that it has drawn. -/
def chartNotices (c : Config) (g : Generated) : List String :=
  (g.notices c).map Notice.message ++ g.parsed.problems.map (·.message) ++ g.findings.map (·.shown)

/-- A run that writes a chart. A drawing on the standard output ends with a line feed. -/
def runChart (a : Arguments) (s : Session) : Outcome :=
  let g := Generated.ofCsv s.config s.csv
  let notices := chartNotices s.config g
  match formatFor a (Export.Format.ofMap? g.parsed.map) with
  | .svg =>
    let doc := Drawing.document g.svg
    { notices := notices
      output := some ⟨a.output, .text (if a.output.isSome then doc else doc ++ "\n")⟩ }
  | .json => { notices := notices, output := some ⟨a.output, .text g.exportText⟩ }
  | .png =>
    if a.output.isNone then .ofFailure notices .noOutput
    else match g.pictureSize s.config.raster with
      | .ok (w, h) => { notices := notices, output := some ⟨a.output, .picture w h⟩ }
      | .error f => .ofFailure notices (.export f)

/-- The session of a run with its sheet merged, and the notices that came up. -/
def mergeSheet (sources : Sources) (a : Arguments) (s : Session) :
    List String × Except Failure Session :=
  match a.sheet with
  | none => ([], .ok s)
  | some path =>
    match s.upload sources.file path with
    | .error p => ([], .error (.sheet p))
    | .ok s => (readNotices s.csv, s.applyUpload.mapError .sheet)

def run (sources : Sources) (a : Arguments) : Outcome :=
  let begin? : Except Failure Session := do
    let config ← configFor sources a
    let base ← baseFor sources a
    return (Session.start config).setCsv base
  match begin? with
  | .error f => .ofFailure [] f
  | .ok s =>
    match mergeSheet sources a s with
    | (notices, .error f) => .ofFailure notices f
    | (notices, .ok s) =>
      let rest :=
        if a.layers then runLayers a s.csv
        else if a.validate then runReport a s.csv
        else runChart a s
      { rest with notices := notices ++ rest.notices }

end Infochart.Command
