import Infochart.Session

/-!
# Drawings for pages

A page asks for a drawing with a description and, written as strict data, what should differ from the
usual look.
-/

namespace Infochart.Page

open Config (Node)

structure Options where
  theme : Option String := none
  fontFamily : Option String := none
  fontSize : Option Float := none
  defaultColorScheme : Option String := none
  standalone : Option Bool := none

def Options.ofNode? (n : Node) : Option Options := do
  let field ← n.record Config.strict
    ["theme", "fontFamily", "fontSize", "defaultColorScheme", "standalone"]
  return {
    theme := ← (field "theme").optional Node.string
    fontFamily := ← (field "fontFamily").optional Node.string
    fontSize := ← (field "fontSize").optional Node.real
    defaultColorScheme := ← (field "defaultColorScheme").optional Node.string
    standalone := ← (field "standalone").optional Node.bool }

def Options.ofText? (s : String) : Option Options :=
  (Config.strictNode? s.toList).bind Options.ofNode?

/-- The theme that a page asks for. Only the exact name of the modern theme selects it. -/
def Options.themeFor (o : Options) : Theme Float :=
  let theme : Theme Float := if o.theme = some "modern" then .modern else .classic
  { theme with
    fontFamily := o.fontFamily.getD theme.fontFamily
    fontSize := o.fontSize.getD theme.fontSize }

def Options.settings (o : Options) : Layout.Settings Float :=
  let settings : Layout.Settings Float := .standard
  { settings with
    defaultColorScheme := o.defaultColorScheme.getD settings.defaultColorScheme }

/-- The drawing that a page asks for, as a document of its own if it says so. -/
def drawing (o : Options) (csv : String) : String :=
  let svg := render o.themeFor o.settings csv
  if o.standalone = some true then Drawing.document svg else svg

end Infochart.Page
