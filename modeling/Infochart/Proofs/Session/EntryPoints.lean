import Infochart.Command.Run
import Infochart.Page
import Infochart.Proofs.Drawing.Document

/-!
# One picture at every entry point

A description is drawn by the one-step drawing, by a session, for a page and by the command. All four
come to the same drawing (`svg_ofCsv`), and where it is to stand alone all of them put the declaration
in front and change nothing else.
-/

namespace Infochart

/-! ## Sessions and the one-step drawing -/

namespace Generated

/-- The layout of a generated chart is that of its map, whether there is a specification or not. -/
theorem layout_ofCsv (c : Config) (csv : String) :
    (ofCsv c csv).layout = Layout.ofMap (Property.read csv).map c.theme c.settings :=
  rfl

theorem svg_eq (c : Config) (csv : String) :
    (ofCsv c csv).svg = (Drawing.ofLayout c.theme (ofCsv c csv).layout).svg := rfl

/-- **A session draws what is drawn in one step.** -/
theorem svg_ofCsv (c : Config) (csv : String) :
    (ofCsv c csv).svg = render c.theme c.settings csv := by
  rw [svg_eq, layout_ofCsv]
  rfl

theorem document_svg_ofCsv (c : Config) (csv : String) :
    Drawing.document (ofCsv c csv).svg = Drawing.declared (ofCsv c csv).svg := by
  rw [svg_eq]
  exact Drawing.document_svg _ _

/-- Of a configuration the drawing shows the theme and the settings. -/
theorem svg_congr {c d : Config} (htheme : d.theme = c.theme) (hsettings : d.settings = c.settings)
    (csv : String) : (ofCsv d csv).svg = (ofCsv c csv).svg := by
  rw [svg_ofCsv, svg_ofCsv, htheme, hsettings]

end Generated

/-! ## Pages -/

theorem Page.drawing_eq {c : Config} {o : Page.Options} (htheme : o.themeFor = c.theme)
    (hsettings : o.settings = c.settings) (csv : String) :
    Page.drawing o csv =
      if o.standalone = some true then Drawing.declared (Generated.ofCsv c csv).svg
      else (Generated.ofCsv c csv).svg := by
  unfold Page.drawing
  simp only
  rw [htheme, hsettings, ← Generated.svg_ofCsv, Generated.document_svg_ofCsv]

/-! ## Runs of the command -/

namespace Command

/-- A run that draws a description into a file, under a configuration with a given theme and settings. A
    size for pictures in pixels may be among its arguments. -/
structure DrawsInto (sources : Sources) (a : Arguments) (c : Config) (csv path : String) : Prop where
  config : ∃ d, configFor sources a = .ok d ∧ d.theme = c.theme ∧ d.settings = c.settings
  base : baseFor sources a = .ok csv
  sheet : a.sheet = none
  layers : a.layers = false
  validate : a.validate = false
  output : a.output = some path
  format : formatFor a (Export.Format.ofMap? (Property.read csv).map) = .svg

variable {sources : Sources} {a : Arguments} {c : Config} {csv path : String}

/-- A run whose configuration and description can be read, without a sheet, is what it does with them. -/
theorem run_eq {d : Config} (hconfig : configFor sources a = .ok d)
    (hbase : baseFor sources a = .ok csv) (hsheet : a.sheet = none) (hlayers : a.layers = false)
    (hvalidate : a.validate = false) :
    run sources a = runChart a ((Session.start d).setCsv csv) := by
  have hbegin : (do
      let config ← configFor sources a
      let base ← baseFor sources a
      return (Session.start config).setCsv base : Except Failure Session) =
        .ok ((Session.start d).setCsv csv) := by
    rw [hconfig, hbase]
    rfl
  unfold run mergeSheet
  simp only [hbegin, hsheet, hlayers, hvalidate, Bool.false_eq_true, if_false, List.nil_append]

theorem runChart_svg {d : Config} (houtput : a.output = some path)
    (hformat : formatFor a (Export.Format.ofMap? (Property.read csv).map) = .svg) :
    (runChart a ((Session.start d).setCsv csv)).output =
        some ⟨some path, .text (Drawing.document (Generated.ofCsv d csv).svg)⟩ ∧
      (runChart a ((Session.start d).setCsv csv)).failure = none := by
  have hparsed : (Generated.ofCsv d csv).parsed = Property.read csv := rfl
  unfold runChart Session.start Session.setCsv
  simp only [hparsed, hformat, houtput, Option.isSome_some, if_true, and_self]

/-- A run that draws into a file writes the document of the drawing, and that is all. -/
theorem DrawsInto.run_eq (h : DrawsInto sources a c csv path) :
    (run sources a).output =
        some ⟨some path, .text (Drawing.declared (Generated.ofCsv c csv).svg)⟩ ∧
      (run sources a).failure = none := by
  obtain ⟨d, hconfig, htheme, hsettings⟩ := h.config
  rw [Command.run_eq hconfig h.base h.sheet h.layers h.validate,
    ← Generated.svg_congr htheme hsettings, ← Generated.document_svg_ofCsv]
  exact runChart_svg h.output h.format

end Command

/-! ## Settings files with a theme

A file that has nothing but the name of a theme changes the theme alone. -/

namespace Config

theorem ThemeOverrides.apply_empty (t : Theme Float) : ({} : ThemeOverrides).apply t = t :=
  rfl

theorem Overrides.theme_apply (o : Overrides) (c : Config) :
    (o.apply c).theme = o.themeVariables.apply ((o.theme.bind Theme.ofName?).getD c.theme) :=
  rfl

theorem overrides_theme (name : String) :
    overrides strict (.object [(some "theme", .text (some name))]) = some { theme := some name } :=
  rfl

theorem ofText?_of_theme {s name : String}
    (h : strictNode? s.toList = some (.object [(some "theme", .text (some name))])) :
    ∃ d, ofText? s = some d ∧ d.theme = (Theme.ofName? name).getD standard.theme ∧
      d.settings = standard.settings := by
  have hread : Overrides.ofText? s.toList = some { theme := some name } := by
    unfold Overrides.ofText?
    rw [h, Option.bind_some, overrides_theme]
  refine ⟨({ theme := some name } : Overrides).apply standard, ?_, ?_, rfl⟩
  · unfold ofText?
    rw [hread]
    rfl
  · simp only [Overrides.theme_apply, Option.bind_some, ThemeOverrides.apply_empty]

/-- What a file holds cannot be decided to be equal to other data, since literals carry numbers; but it can
    be decided whether it has a certain shape. -/
theorem strictNode?_of_shape {s name : String}
    (h : (strictNode? s.toList).any (fun
      | .object [(some key, .text (some value))] => decide (key = "theme") && decide (value = name)
      | _ => false) = true) :
    strictNode? s.toList = some (.object [(some "theme", .text (some name))]) := by
  obtain ⟨n, hn, hshape⟩ := (Option.any_eq_true _ _).1 h
  split at hshape
  · simp only [Bool.and_eq_true, decide_eq_true_eq] at hshape
    rw [hn, hshape.1, hshape.2]
  · cases hshape

end Config

/-! ## All of them -/

/-- **One picture at every entry point.** For any configuration and description, a session generates the
    layout of the map that the description is read as, and the drawing that is drawn in one step under the
    theme and the settings of the configuration. As a document the session hands out the declaration, a
    line feed and that drawing. A page whose options come to the same theme and settings shows the drawing,
    or that document if it is to stand alone; and a run of the command that draws the description into a
    file writes that document without a failure. -/
theorem entry_points_agree (c : Config) (csv : String) :
    let s := ((Session.start c).setCsv csv).generate
    ∃ g, s.generated? = some g ∧
      g.layout = Layout.ofMap (Property.read csv).map c.theme c.settings ∧
      g.svg = render c.theme c.settings csv ∧
      s.exportAs .svg = .ok (.svg (Drawing.declared g.svg)) ∧
      (∀ o : Page.Options, o.themeFor = c.theme → o.settings = c.settings →
        Page.drawing o csv = if o.standalone = some true then Drawing.declared g.svg else g.svg) ∧
      ∀ sources a path, Command.DrawsInto sources a c csv path →
        (Command.run sources a).output = some ⟨some path, .text (Drawing.declared g.svg)⟩ ∧
          (Command.run sources a).failure = none := by
  refine ⟨.ofCsv c csv, rfl, Generated.layout_ofCsv c csv, Generated.svg_ofCsv c csv, ?_,
    fun o htheme hsettings => Page.drawing_eq htheme hsettings csv, fun _ _ _ h => h.run_eq⟩
  rw [← Generated.document_svg_ofCsv]
  rfl

/-- A bar chart in the modern theme. A page asks for the theme by its name, and for a document; a run of
    the command finds the name in a settings file, and has a width among its arguments that drawings do
    not take. -/
theorem entry_points_agree_on_bars :
    let csv := "101,Bar Chart\n601,[\"a\",\"b\"]\n701,[3,5]"
    let c : Config := { Config.standard with theme := .modern }
    let sources : Command.Sources :=
      ⟨.ok "", fun path => .ok (if path = "look.json" then "\x7b\"theme\": \"modern\"\x7d" else csv)⟩
    let a : Command.Arguments :=
      { input := some "in.csv", output := some "out.svg", config := some "look.json", width := some 400 }
    let document := Drawing.declared (render c.theme c.settings csv)
    (Layout.ofMap (Property.read csv).map c.theme c.settings).isPlaceholder = false ∧
      ((Session.start c).setCsv csv).generate.exportAs .svg = .ok (.svg document) ∧
      Page.drawing { theme := some "modern", standalone := some true } csv = document ∧
      (Command.run sources a).output = some ⟨some "out.svg", .text document⟩ ∧
      (Command.run sources a).failure = none := by
  intro csv c sources a document
  have hkey : Text.asciiLower (Text.trimmed "modern") = "modern" := by decide +kernel
  have hname : (Theme.ofName? "modern" : Option (Theme Float)) = some .modern := by
    simp [Theme.ofName?, hkey]
  obtain ⟨d, hread, htheme, hsettings⟩ :=
    Config.ofText?_of_theme (@Config.strictNode?_of_shape "\x7b\"theme\": \"modern\"\x7d" "modern"
      (by decide +kernel))
  rw [hname, Option.getD_some] at htheme
  have hdraws : Command.DrawsInto sources a c csv "out.svg" :=
    { config := by
        unfold Command.configFor
        simp only [a, sources, if_true, hread]
        exact ⟨_, rfl, htheme, hsettings⟩
      base := rfl
      sheet := rfl
      layers := rfl
      validate := rfl
      output := rfl
      format := by decide +kernel }
  obtain ⟨g, -, -, hsvg, hexport, hpage, hrun⟩ := entry_points_agree c csv
  rw [hsvg] at hexport hpage hrun
  exact ⟨by decide +kernel, hexport, hpage { theme := some "modern", standalone := some true } rfl rfl,
    hrun sources a "out.svg" hdraws⟩

end Infochart
