import Infochart.Text.Blank
import Infochart.Property.Map

/-!
# Export formats

The formats in which a chart is handed out, how they are named, and what can prevent it.
-/

namespace Infochart.Export

open Property (Map)

inductive Format where
  | svg
  | png
  | json
  deriving DecidableEq, Repr

def Format.name : Format → String
  | .svg => "svg"
  | .png => "png"
  | .json => "json"

def Format.all : List Format :=
  [.svg, .png, .json]

/-- A format name without the blanks around it, in lower case. -/
def formatKey (s : String) : String :=
  Text.asciiLower (Text.trimmed s)

/-- The format of a name, whatever its letter case and the blanks around it. -/
def Format.ofText? (s : String) : Option Format :=
  Format.all.find? (·.name == formatKey s)

/-- What is said about a name that is that of no format. -/
def unknownFormat (s : String) : String :=
  "unknown output format '" ++ formatKey s ++ "'"

/-- The format that a description asks for, if it names one. -/
def Format.ofMap? (m : Map) : Option Format :=
  (m.text? .outputFormat).bind Format.ofText?

inductive Failure where
  | nothingGenerated
  /-- The drawing is no markup. -/
  | malformed
  /-- There is no picture of this size in pixels. -/
  | extent (width height : Nat)
  deriving DecidableEq, Repr

def Failure.message : Failure → String
  | .nothingGenerated => "nothing to export: generate a chart first"
  | .malformed => "failed to parse SVG for rasterization"
  | .extent width height =>
    "failed to allocate a " ++ toString width ++ "x" ++ toString height ++ " pixmap"

/-- What is handed out. Of a picture only the size is. -/
inductive Exported where
  | svg (s : String)
  | png (width height : Nat)
  | json (s : String)
  deriving DecidableEq, Repr

end Infochart.Export
