import Infochart.Drawing.OfLayout
import Infochart.Layout.Compute
import Infochart.Proofs.Drawing.Outline

/-!
# Outlines of layouts

Which elements a layout is drawn with, and with which attributes, is a matter of its parts and of how its
letters are set. Fonts and colors only fill in values, so drawings with two themes of equal sizes have
one outline.
-/

namespace Infochart

/-- A theme with the sizes of another, and with the font and the colors of the classic one. -/
def Theme.unstyled {α : Type} [Layout.Scale α] (t : Theme α) : Theme α :=
  { (Theme.classic : Theme α) with
    fontSize := t.fontSize
    titleFontSize := t.titleFontSize
    smallFontSize := t.smallFontSize }

namespace Drawing

open Layout

/-! ## The names of the parts -/

/-- The name of an element, and those of its attributes. -/
def Element.names (e : Element) : String × List String :=
  (e.tag.name, e.attributes.map Attribute.name)

section Names

variable {α : Type} [Written α]

@[simp] theorem name_measure (name : String) (x : α) : (measure name x).name = name := rfl

@[simp] theorem names_mk (tag : Tag) (attributes : List Attribute) (content : Option String) :
    Element.names ⟨tag, attributes, content⟩ = (tag.name, attributes.map Attribute.name) := rfl

@[simp] theorem names_segment (s : Segment α) (stroke : String) (width : α) :
    (segment s stroke width).names =
      ("line", ["x1", "y1", "x2", "y2", "stroke", "stroke-width"]) := rfl

@[simp] theorem names_dot (x y radius : α) (fill : String) :
    (dot x y radius fill).names = ("circle", ["cx", "cy", "r", "fill"]) := rfl

@[simp] theorem names_box (x y width height : α) (more : List Attribute) :
    (box x y width height more).names =
      ("rect", ["x", "y", "width", "height"] ++ more.map Attribute.name) := rfl

/-- The names of a label, which depend on how its letters are set. -/
def labelNames (l : Label α) : String × List String :=
  ("text", ["x", "y", "text-anchor", "font-size"] ++ (if l.bold then ["font-weight"] else [])
    ++ (if l.centered then ["dominant-baseline"] else []) ++ ["fill"])

@[simp] theorem names_label (t : Theme α) (l : Label α) : (label t l).names = labelNames l := by
  unfold Element.names label labelNames
  cases l.bold <;> cases l.centered <;> rfl

@[simp] theorem names_label? (t : Theme α) (l : Option (Label α)) :
    (l.map (label t)).toList.map Element.names = (l.map labelNames).toList := by
  cases l with
  | none => rfl
  | some x => simp

variable (t u : Theme α)

theorem names_legend (opacity : Option α) (items : List (LegendItem α)) :
    (legend t opacity items).map Element.names = (legend u opacity items).map Element.names := by
  simp [legend, List.map_flatMap]

theorem names_bar (b : Bar α) : (bar t b).map Element.names = (bar u b).map Element.names := by
  simp [bar]

variable [Scale α]

theorem names_ticks (ts : List (Tick α)) :
    (ticks t ts).map Element.names = (ticks u ts).map Element.names := by
  simp [ticks, List.map_flatMap]

/-- The names in the drawing of a diagram do not depend on the theme. -/
theorem names_diagram (d : Diagram α) :
    (diagram t d).map Element.names = (diagram u d).map Element.names := by
  cases d with
  | bar c => simp [diagram, barChart, axes, List.map_flatMap, names_ticks t u, names_bar t u,
      names_legend t u]
  | pie c => simp [diagram, pieChart, Function.comp_def, names_legend t u]
  | line c => simp [diagram, lineChart, axes, List.map_flatMap, names_ticks t u, names_legend t u]
  | radar c => simp [diagram, radarChart, List.map_flatMap, names_legend t u]
  | process d => simp [diagram, processDiagram, List.map_flatMap, Function.comp_def]
  | timeline l =>
    simp [diagram, timeline, List.map_flatMap, apply_ite (List.map Element.names)]
  | comparison c => simp [diagram, comparisonChart, List.map_flatMap, names_bar t u]
  | placeholder b => simp [diagram, placeholder, labelNames]

variable {t}

section Parts

omit [Scale α]

/-- The names of a pie are fixed by the labels of its slices and by its legend. -/
theorem names_pieChart {c d : PieChart α} (hlegend : c.legend = d.legend)
    (hslices : c.slices.map (fun s => labelNames s.percentLabel) =
      d.slices.map fun s => labelNames s.percentLabel) :
    (pieChart t c).map Element.names = (pieChart t d).map Element.names := by
  have hlength : c.slices.length = d.slices.length := by
    simpa using congrArg List.length hslices
  simp [pieChart, Function.comp_def, List.map_const', hslices, hlength, hlegend]

theorem names_processDiagram {c d : ProcessDiagram α} (harrows : c.arrows = d.arrows)
    (hsteps : c.steps.map (fun s => (labelNames s.title, s.description.map labelNames)) =
      d.steps.map fun s => (labelNames s.title, s.description.map labelNames)) :
    (processDiagram t c).map Element.names = (processDiagram t d).map Element.names := by
  have hboxes := congrArg (List.flatMap fun (title, description) =>
    ("rect", ["x", "y", "width", "height", "rx", "ry", "fill"]) :: title :: description) hsteps
  rw [List.flatMap_map, List.flatMap_map] at hboxes
  simpa [processDiagram, List.map_flatMap, Function.comp_def, harrows] using hboxes

end Parts

omit [Written α] in
theorem names_description (f : ProcessFrame α) (maxLines : Nat) (text : String) (i : Nat) :
    (f.description t.unstyled maxLines text i).map labelNames =
      (f.description t maxLines text i).map labelNames := by
  unfold ProcessFrame.description
  simp only
  split
  · rfl
  · rw [List.map_map, List.map_map]
    rfl

/-- Two layouts with one title, and with diagrams that are drawn with the same names. -/
structure SameNames (t : Theme α) (k l : Layout α) : Prop where
  title : k.title = l.title
  diagram : (diagram t k.diagram).map Element.names = (diagram t l.diagram).map Element.names

theorem SameNames.of_eq {k l : Layout α} (h : k = l) : SameNames t k l := by
  subst h
  exact ⟨rfl, rfl⟩

theorem sameNames_pieLayout (p : Plan α) (s : Settings α) :
    SameNames t (pieLayout p t.unstyled s) (pieLayout p t s) := by
  unfold pieLayout
  simp only
  split
  · exact .of_eq rfl
  split
  · exact .of_eq rfl
  · refine ⟨rfl, names_pieChart rfl ?_⟩
    rw [List.map_map, List.map_map]
    rfl

theorem sameNames_processLayout (p : Plan α) (s : Settings α) :
    SameNames t (processLayout p t.unstyled s) (processLayout p t s) := by
  unfold processLayout
  split
  · exact .of_eq rfl
  · refine ⟨rfl, names_processDiagram rfl ?_⟩
    rw [List.map_map, List.map_map]
    congr 1
    funext (label, i)
    exact congrArg (Prod.mk _) (names_description _ _ _ _)

/-- Only slices and steps are laid out with a color of the theme, and no name depends on that. -/
theorem sameNames_ofPlan (p : Plan α) (s : Settings α) :
    SameNames t (ofPlan p t.unstyled s) (ofPlan p t s) := by
  unfold ofPlan
  split
  · exact .of_eq rfl
  · exact sameNames_pieLayout p s
  · exact .of_eq rfl
  · exact .of_eq rfl
  · exact sameNames_processLayout p s
  · exact .of_eq rfl
  · exact .of_eq rfl

/-- The names of the root are always the same. -/
theorem names_root (l : Layout α) : (ofLayout t l).attributes.map (fun a => a.name.toList) =
    ["xmlns", "width", "height", "viewBox", "font-family"].map String.toList := rfl

end Names

/-! ## Whole drawings -/

/-- The names of a drawing are those of its root and of its elements. -/
theorem names_tags (d : Drawing) : d.tags.map Scan.Head.names =
    (rootName, d.attributes.map fun a => a.name.toList) ::
      (d.elements.map Element.names).map fun (name, keys) =>
        (name.toList, keys.map String.toList) := by
  unfold tags
  simp [Scan.Head.names, Element.names, Element.written, Attribute.written, Function.comp_def]

/-- **A map is drawn with the same names whatever the font and the colors are.** -/
theorem names_ofMap (m : Property.Map) (t : Theme Float) (s : Settings Float) :
    (ofLayout t.unstyled (ofMap m t.unstyled s)).tags.map Scan.Head.names =
      (ofLayout t (ofMap m t s)).tags.map Scan.Head.names := by
  have hsame : SameNames t (ofMap m t.unstyled s) (ofMap m t s) := by
    unfold ofMap
    split
    · exact sameNames_ofPlan _ s
    · exact .of_eq rfl
  have helements : (ofLayout t.unstyled (ofMap m t.unstyled s)).elements.map Element.names =
      (ofLayout t (ofMap m t s)).elements.map Element.names := by
    simp [ofLayout, hsame.title, names_diagram t.unstyled t, hsame.diagram]
  rw [names_tags, names_tags, names_root, names_root, helements]

end Drawing
end Infochart
