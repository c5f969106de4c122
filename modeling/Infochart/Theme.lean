import Infochart.Layout.Scale
import Infochart.Text.Blank

/-!
# Themes

The fonts and colors of a drawing. There are two themes, of which a settings file may change every
single part.

Colors are texts, and nothing here looks into them: whether one names a color, or even is fit to stand in
an attribute, is left to whoever wrote it.
-/

namespace Infochart

structure Theme (α : Type) where
  fontFamily : String
  fontSize : α
  titleFontSize : α
  smallFontSize : α
  textColor : String
  axisColor : String
  gridColor : String
  ringColor : String
  spokeColor : String
  dividerColor : String
  connectorColor : String
  onFillTextColor : String
  background : String
  placeholderBackground : String
  placeholderBorder : String
  placeholderTextColor : String
  deriving Repr

namespace Theme

variable {α : Type} [Layout.Scale α]

def classic : Theme α where
  fontFamily := "Arial, sans-serif"
  fontSize := 12
  titleFontSize := 20
  smallFontSize := 10
  textColor := "#000000"
  axisColor := "#000000"
  gridColor := "#EEEEEE"
  ringColor := "#DDDDDD"
  spokeColor := "#AAAAAA"
  dividerColor := "#CCCCCC"
  connectorColor := "#555555"
  onFillTextColor := "#FFFFFF"
  background := "#FFFFFF"
  placeholderBackground := "#FFF3CD"
  placeholderBorder := "#FFE69C"
  placeholderTextColor := "#664D03"

def modern : Theme α where
  fontFamily := "Inter, Segoe UI, system-ui, -apple-system, sans-serif"
  fontSize := 12
  titleFontSize := 20
  smallFontSize := 10
  textColor := "#1C2430"
  axisColor := "#7A8AA6"
  gridColor := "#EEF2F8"
  ringColor := "#D7E0F0"
  spokeColor := "#C7D2E5"
  dividerColor := "#C7D2E5"
  connectorColor := "#7A8AA6"
  onFillTextColor := "#FFFFFF"
  background := "#FFFFFF"
  placeholderBackground := "#F7FAFF"
  placeholderBorder := "#D7E0F0"
  placeholderTextColor := "#1C2430"

/-- A theme by its name, in whatever case and with blanks around it. The plain theme has several names. -/
def ofName? (name : String) : Option (Theme α) :=
  match Text.asciiLower (Text.trimmed name) with
  | "modern" => some modern
  | "classic" => some classic
  | "default" => some classic
  | "base" => some classic
  | _ => none

end Theme

end Infochart
