import Infochart.Layout.Settings
import Infochart.Theme
import Infochart.Config.Node

/-!
# Settings files

What a settings file may change, how it is read, and what it does to a configuration. The strict format
is tried first and the relaxed one after it, so that hand-written files are read as well.
-/

namespace Infochart

/-- The size and background of a picture in pixels. A missing measure follows from the drawing. -/
structure RasterSettings where
  width : Option Float32
  height : Option Float32
  background : String

structure Config where
  theme : Theme Float
  settings : Layout.Settings Float
  raster : RasterSettings

namespace Config

/-- The configuration that holds where nothing else is said. -/
def standard : Config where
  theme := .classic
  settings := .standard
  raster := ⟨none, none, (Theme.classic (α := Float)).background⟩

structure ThemeOverrides where
  fontFamily : Option String := none
  fontSize : Option Float := none
  titleFontSize : Option Float := none
  smallFontSize : Option Float := none
  textColor : Option String := none
  axisColor : Option String := none
  gridColor : Option String := none
  ringColor : Option String := none
  spokeColor : Option String := none
  dividerColor : Option String := none
  connectorColor : Option String := none
  onFillTextColor : Option String := none
  background : Option String := none
  placeholderBackground : Option String := none
  placeholderBorder : Option String := none
  placeholderTextColor : Option String := none

structure CanvasOverride where
  width : Option Float := none
  height : Option Float := none

structure BarOverrides where
  maxWidth : Option Float := none
  maxThickness : Option Float := none
  fillRatio : Option Float := none

structure PieOverrides where
  radius : Option Float := none
  labelRadiusRatio : Option Float := none
  legendSpacing : Option Float := none

structure RadarOverrides where
  radius : Option Float := none
  rings : Option Nat := none
  fillOpacity : Option Float := none

structure ProcessOverrides where
  boxWidth : Option Float := none
  boxHeight : Option Float := none
  arrowLength : Option Float := none
  maxDescriptionLines : Option Nat := none

structure TimelineOverrides where
  columnDescriptionChars : Option Nat := none
  rowDescriptionChars : Option Nat := none
  dotRadius : Option Float := none

/-- All that a settings file says. The entries of the canvas object are kept with their keys, in the
    order in which they are applied. -/
structure Overrides where
  theme : Option String := none
  themeVariables : ThemeOverrides := {}
  canvas : List (String × CanvasOverride) := []
  margin : Option Float := none
  tickCount : Option Nat := none
  defaultColorScheme : Option String := none
  bar : BarOverrides := {}
  pie : PieOverrides := {}
  radar : RadarOverrides := {}
  process : ProcessOverrides := {}
  timeline : TimelineOverrides := {}

/-! ## Reading -/

/-- Drops every `px` at the end of a text that is read backwards. -/
def dropUnit : List Char → List Char
  | 'x' :: 'p' :: r => dropUnit r
  | s => s

/-- The number of a text that may have its unit behind it. -/
def fontSizeText (s : String) : Option Float :=
  Decimal.number? (dropUnit (Text.trim s.toList).reverse).reverse

/-- A font size: a number, or a text with one. A text without one is allowed and changes nothing. -/
def fontSize : Node → Option (Option Float)
  | .null => some none
  | .number r => r.free.map some
  | .text s => s.map fontSizeText
  | _ => none

def themeOverrides (m : Manner) (n : Node) : Option ThemeOverrides := do
  let field ← n.record m
    ["fontFamily", "fontSize", "titleFontSize", "smallFontSize", "textColor", "axisColor",
     "gridColor", "ringColor", "spokeColor", "dividerColor", "connectorColor", "onFillTextColor",
     "background", "placeholderBackground", "placeholderBorder", "placeholderTextColor"]
  let text (name : String) := (field name).optional Node.string
  return {
    fontFamily := ← text "fontFamily"
    fontSize := ← fontSize (field "fontSize")
    titleFontSize := ← fontSize (field "titleFontSize")
    smallFontSize := ← fontSize (field "smallFontSize")
    textColor := ← text "textColor"
    axisColor := ← text "axisColor"
    gridColor := ← text "gridColor"
    ringColor := ← text "ringColor"
    spokeColor := ← text "spokeColor"
    dividerColor := ← text "dividerColor"
    connectorColor := ← text "connectorColor"
    onFillTextColor := ← text "onFillTextColor"
    background := ← text "background"
    placeholderBackground := ← text "placeholderBackground"
    placeholderBorder := ← text "placeholderBorder"
    placeholderTextColor := ← text "placeholderTextColor" }

def canvasOverride (m : Manner) (n : Node) : Option CanvasOverride := do
  let field ← n.record m ["width", "height"]
  return {
    width := ← (field "width").optional Node.real
    height := ← (field "height").optional Node.real }

/-- The changes to the canvases, by key. A later entry takes the place of an earlier one with the same
    key. -/
def canvasOverrides (m : Manner) : Node → Option (List (String × CanvasOverride))
  | .object members => members.foldlM (fun done (key, n) => do
      let key ← key
      let change ← canvasOverride m n
      return done.filter (fun e => e.1 != key) ++ [(key, change)]) []
  | _ => none

def barOverrides (m : Manner) (n : Node) : Option BarOverrides := do
  let field ← n.record m ["maxBarWidth", "maxBarThickness", "fillRatio"]
  return {
    maxWidth := ← (field "maxBarWidth").optional Node.real
    maxThickness := ← (field "maxBarThickness").optional Node.real
    fillRatio := ← (field "fillRatio").optional Node.real }

def pieOverrides (m : Manner) (n : Node) : Option PieOverrides := do
  let field ← n.record m ["radius", "labelRadiusRatio", "legendSpacing"]
  return {
    radius := ← (field "radius").optional Node.real
    labelRadiusRatio := ← (field "labelRadiusRatio").optional Node.real
    legendSpacing := ← (field "legendSpacing").optional Node.real }

def radarOverrides (m : Manner) (n : Node) : Option RadarOverrides := do
  let field ← n.record m ["radius", "rings", "fillOpacity"]
  return {
    radius := ← (field "radius").optional Node.real
    rings := ← (field "rings").optional Node.count
    fillOpacity := ← (field "fillOpacity").optional Node.real }

/-- The changes to the measures of process diagrams. -/
def processOverrides (m : Manner) (n : Node) : Option ProcessOverrides := do
  let field ← n.record m ["boxWidth", "boxHeight", "arrowLength", "maxDescriptionLines"]
  return {
    boxWidth := ← (field "boxWidth").optional Node.real
    boxHeight := ← (field "boxHeight").optional Node.real
    arrowLength := ← (field "arrowLength").optional Node.real
    maxDescriptionLines := ← (field "maxDescriptionLines").optional Node.count }

def timelineOverrides (m : Manner) (n : Node) : Option TimelineOverrides := do
  let field ← n.record m ["columnDescriptionChars", "rowDescriptionChars", "dotRadius"]
  return {
    columnDescriptionChars := ← (field "columnDescriptionChars").optional Node.count
    rowDescriptionChars := ← (field "rowDescriptionChars").optional Node.count
    dotRadius := ← (field "dotRadius").optional Node.real }

def overrides (m : Manner) (n : Node) : Option Overrides := do
  let field ← n.record m
    ["theme", "themeVariables", "canvas", "margin", "tickCount", "defaultColorScheme", "bar", "pie",
     "radar", "process", "timeline"]
  return {
    theme := ← (field "theme").optional Node.string
    themeVariables := ((← (field "themeVariables").optional (themeOverrides m))).getD {}
    canvas := (← (field "canvas").optional (canvasOverrides m)).getD []
    margin := ← (field "margin").optional Node.real
    tickCount := ← (field "tickCount").optional Node.count
    defaultColorScheme := ← (field "defaultColorScheme").optional Node.string
    bar := (← (field "bar").optional (barOverrides m)).getD {}
    pie := (← (field "pie").optional (pieOverrides m)).getD {}
    radar := (← (field "radar").optional (radarOverrides m)).getD {}
    process := (← (field "process").optional (processOverrides m)).getD {}
    timeline := (← (field "timeline").optional (timelineOverrides m)).getD {} }

/-- What the text of a settings file says, in the strict format or else in the relaxed one. -/
def Overrides.ofText? (s : List Char) : Option Overrides :=
  match (strictNode? s).bind (overrides strict) with
  | some o => some o
  | none => (relaxedNode? s).bind (overrides relaxed)

/-! ## Applying -/

def ThemeOverrides.apply (o : ThemeOverrides) (t : Theme Float) : Theme Float where
  fontFamily := o.fontFamily.getD t.fontFamily
  fontSize := o.fontSize.getD t.fontSize
  titleFontSize := o.titleFontSize.getD t.titleFontSize
  smallFontSize := o.smallFontSize.getD t.smallFontSize
  textColor := o.textColor.getD t.textColor
  axisColor := o.axisColor.getD t.axisColor
  gridColor := o.gridColor.getD t.gridColor
  ringColor := o.ringColor.getD t.ringColor
  spokeColor := o.spokeColor.getD t.spokeColor
  dividerColor := o.dividerColor.getD t.dividerColor
  connectorColor := o.connectorColor.getD t.connectorColor
  onFillTextColor := o.onFillTextColor.getD t.onFillTextColor
  background := o.background.getD t.background
  placeholderBackground := o.placeholderBackground.getD t.placeholderBackground
  placeholderBorder := o.placeholderBorder.getD t.placeholderBorder
  placeholderTextColor := o.placeholderTextColor.getD t.placeholderTextColor

/-- A canvas with changes; only positive measures count. -/
def CanvasOverride.apply (o : CanvasOverride) (c : Layout.Canvas Float) : Layout.Canvas Float where
  width := (o.width.filter (0 < ·)).getD c.width
  height := (o.height.filter (0 < ·)).getD c.height

/-- Settings with a change to the canvas of the kind that a key names. A key that names no kind changes
    nothing. -/
def applyCanvas (s : Layout.Settings Float) (entry : String × CanvasOverride) :
    Layout.Settings Float :=
  match Chart.Kind.resolve entry.1 with
  | some kind => s.setCanvas kind (entry.2.apply (s.canvas kind))
  | none => s

/-- Settings with changes to the measures. Margins are not negative, ticks and rings are at least one,
    and an opacity lies between zero and one. -/
def Overrides.applySettings (o : Overrides) (s : Layout.Settings Float) : Layout.Settings Float :=
  let s := o.canvas.foldl applyCanvas s
  { s with
    margin := (o.margin.map fun x => Layout.greater x 0).getD s.margin
    tickCount := (o.tickCount.map (max · 1)).getD s.tickCount
    defaultColorScheme := o.defaultColorScheme.getD s.defaultColorScheme
    bar :=
      { s.bar with
        maxWidth := o.bar.maxWidth.getD s.bar.maxWidth
        maxThickness := o.bar.maxThickness.getD s.bar.maxThickness
        fillRatio := o.bar.fillRatio.getD s.bar.fillRatio }
    pie :=
      { s.pie with
        radius := o.pie.radius.getD s.pie.radius
        labelRadiusRatio := o.pie.labelRadiusRatio.getD s.pie.labelRadiusRatio
        legendSpacing := o.pie.legendSpacing.getD s.pie.legendSpacing }
    radar :=
      { s.radar with
        radius := o.radar.radius.getD s.radar.radius
        rings := (o.radar.rings.map (max · 1)).getD s.radar.rings
        fillOpacity := (o.radar.fillOpacity.map Layout.clampUnit).getD s.radar.fillOpacity }
    process :=
      { s.process with
        boxWidth := o.process.boxWidth.getD s.process.boxWidth
        boxHeight := o.process.boxHeight.getD s.process.boxHeight
        arrowLength := o.process.arrowLength.getD s.process.arrowLength
        maxDescriptionLines := o.process.maxDescriptionLines.getD s.process.maxDescriptionLines }
    timeline :=
      { s.timeline with
        columnDescriptionChars :=
          o.timeline.columnDescriptionChars.getD s.timeline.columnDescriptionChars
        rowDescriptionChars := o.timeline.rowDescriptionChars.getD s.timeline.rowDescriptionChars
        dotRadius := o.timeline.dotRadius.getD s.timeline.dotRadius } }

/-- A configuration with all changes. A theme that is named comes first, and a name that is unknown
    changes nothing. -/
def Overrides.apply (o : Overrides) (c : Config) : Config :=
  let theme := o.themeVariables.apply ((o.theme.bind Theme.ofName?).getD c.theme)
  { theme := theme
    settings := o.applySettings c.settings
    raster := { c.raster with background := theme.background } }

/-- The configuration that the text of a settings file describes. -/
def ofText? (s : String) : Option Config :=
  (Overrides.ofText? s.toList).map (·.apply standard)

end Config

end Infochart
