import Infochart.Drawing.OfLayout
import Infochart.Proofs.Drawing.Plain
import Infochart.Proofs.Layout.Colors

/-!
# What a drawing consists of

Every element of a drawing is one that the reader gives back. Its attributes are numbers, fixed words,
paths and colors, and none of these holds markup if the colors of the theme do not; the one attribute
with a text of someone else's choice, the font, is escaped like the content of a text element.

The proofs run along the drawing, with one lemma for each function that makes elements. They are stated for
any property of values that texts without markup have (`Permits`), because the colors of a theme may be any
texts: with a theme of which nothing is known the same lemmas say that nothing but its colors is written
without an escape. Lists of attributes are literal, so simp takes them apart and the lemmas marked for it
close each attribute by its name.
-/

namespace Infochart.Drawing

open Layout

/-! ## Values -/

/-- What may stand in the attributes of a drawing: every text without markup, and every color of the
    theme. -/
structure Permits (P : String → Prop) (t : Theme Float) : Prop where
  plain : ∀ s, IsPlain s → P s
  textColor : P t.textColor
  axisColor : P t.axisColor
  gridColor : P t.gridColor
  ringColor : P t.ringColor
  spokeColor : P t.spokeColor
  dividerColor : P t.dividerColor
  connectorColor : P t.connectorColor
  onFillTextColor : P t.onFillTextColor
  background : P t.background
  placeholderBackground : P t.placeholderBackground
  placeholderBorder : P t.placeholderBorder
  placeholderTextColor : P t.placeholderTextColor

theorem HasPlainColors.permits {t : Theme Float} (h : HasPlainColors t) : Permits IsPlain t :=
  ⟨fun _ => id, h.textColor, h.axisColor, h.gridColor, h.ringColor, h.spokeColor,
    h.dividerColor, h.connectorColor, h.onFillTextColor, h.background, h.placeholderBackground,
    h.placeholderBorder, h.placeholderTextColor⟩

/-- An attribute with a name, whose value has a property. -/
structure Attribute.Holds (P : String → Prop) (a : Attribute) : Prop where
  name : IsName a.name.toList
  value : P a.value

/-- An element with such attributes, and with content if and only if it is a text. -/
structure Element.Holds (P : String → Prop) (e : Element) : Prop where
  attributes : ∀ a ∈ e.attributes, a.Holds P
  content : e.content.isSome = true ↔ e.tag = .text

theorem Attribute.Holds.isSafe {a : Attribute} (h : a.Holds IsPlain) : a.IsSafe :=
  ⟨h.name, a.value.toList, h.value.escape_eq.symm⟩

theorem Element.Holds.isSafe {e : Element} (h : e.Holds IsPlain) : e.IsSafe :=
  ⟨fun a ha => (h.attributes a ha).isSafe, h.content⟩

variable {P : String → Prop}

/-- A color, or another value that is known to have the property. -/
@[simp] theorem holds_mk {name value : String} (hname : IsName name.toList) (hvalue : P value) :
    Attribute.Holds P ⟨name, value⟩ :=
  ⟨hname, hvalue⟩

section Attributes

variable (hplain : ∀ s, IsPlain s → P s)
include hplain

/-- A fixed word. -/
@[simp] theorem holds_word {name value : String} (hname : IsName name.toList)
    (hvalue : IsPlain value) : Attribute.Holds P ⟨name, value⟩ :=
  ⟨hname, hplain value hvalue⟩

@[simp] theorem holds_at2 {name : String} (hname : IsName name.toList) (x : Float) :
    (at2 name x).Holds P :=
  holds_word hplain hname (isPlain_places 2 x)

@[simp] theorem holds_measure {name : String} (hname : IsName name.toList) (x : Float) :
    (measure name x).Holds P :=
  holds_word hplain hname (isPlain_plain x)

end Attributes

/-! ## Elements -/

variable {t : Theme Float} (ht : Permits P t)
include ht

theorem holds_segment {stroke : String} (h : P stroke) (s : Segment Float) (width : Float) :
    (segment s stroke width).Holds P where
  attributes := by
    have hplain := ht.plain
    simp (disch := first | assumption | decide) [segment]
  content := by simp [segment]

theorem holds_dot {fill : String} (h : P fill) (x y radius : Float) :
    (dot x y radius fill).Holds P where
  attributes := by
    have hplain := ht.plain
    simp (disch := first | assumption | decide) [dot]
  content := by simp [dot]

/-- A box takes the attributes that differ from kind to kind as an argument, fill and corners among them. -/
theorem holds_box {more : List Attribute} (h : ∀ a ∈ more, a.Holds P) (x y width height : Float) :
    (box x y width height more).Holds P where
  attributes := by
    have hplain := ht.plain
    simp (disch := first | assumption | decide) [box]
    exact h
  content := by simp [box]

/-- A label is drawn in its own color or in that of the theme. Weight and baseline are there or not. -/
theorem holds_label {l : Label Float} (h : l.Colored P) : (label t l).Holds P where
  attributes := by
    have hplain := ht.plain
    have hanchor : IsPlain l.anchor.name := by cases l.anchor <;> decide
    have hcolor : P (l.color.getD t.textColor) := by
      cases hc : l.color with
      | none => exact ht.textColor
      | some c => exact h c hc
    unfold label
    cases l.bold <;> cases l.centered <;> simp (disch := first | assumption | decide)
  content := by simp [label]

/-! ## Parts that the charts share -/

theorem holds_of_mem_labels {ls : List (Label Float)} (h : ∀ l ∈ ls, l.Colored P) :
    ∀ e ∈ ls.map (label t), e.Holds P := by
  rw [List.forall_mem_map]
  exact fun l hl => holds_label ht (h l hl)

theorem holds_of_mem_option {l : Option (Label Float)} (h : ∀ x ∈ l, x.Colored P) :
    ∀ e ∈ (l.map (label t)).toList, e.Holds P := by
  cases l with
  | none => simp
  | some x => simpa using holds_label ht (h x rfl)

theorem holds_of_mem_ticks {ts : List (Tick Float)} (h : ∀ k ∈ ts, k.label.Colored P) :
    ∀ e ∈ ticks t ts, e.Holds P := by
  unfold ticks
  rw [List.forall_mem_flatMap]
  intro k hk
  simp only [List.forall_mem_cons]
  exact ⟨holds_segment ht ht.gridColor _ _, holds_segment ht ht.axisColor _ _,
    holds_label ht (h k hk), by simp⟩

theorem holds_of_mem_axes (plot : Area Float) : ∀ e ∈ axes t plot, e.Holds P := by
  unfold axes
  simp only [List.forall_mem_cons]
  exact ⟨holds_segment ht ht.axisColor _ _, holds_segment ht ht.axisColor _ _, by simp⟩

theorem holds_of_mem_legend {items : List (LegendItem Float)}
    (h : ∀ i ∈ items, i.Colored P) (opacity : Option Float) :
    ∀ e ∈ legend t opacity items, e.Holds P := by
  unfold legend
  rw [List.forall_mem_flatMap]
  intro i hi
  have hplain := ht.plain
  have hcolor := (h i hi).color
  have hmore : ∀ a ∈ ⟨"fill", i.color⟩ :: (opacity.map (measure "fill-opacity")).toList,
      a.Holds P := by
    cases opacity <;> simp (disch := first | assumption | decide)
  simp only [List.forall_mem_cons]
  exact ⟨holds_box ht hmore _ _ _ _, holds_label ht (h i hi).label, by simp⟩

theorem holds_of_mem_bar {b : Bar Float} (h : b.Colored P) : ∀ e ∈ bar t b, e.Holds P := by
  have hcolor := h.color
  unfold bar
  simp only [List.forall_mem_cons]
  refine ⟨holds_box ht ?_ _ _ _ _, holds_label ht h.label, by simp⟩
  simp (disch := first | assumption | decide)

/-! ## The eight kinds of diagrams -/

theorem holds_of_mem_barChart {c : BarChart Float} (h : c.Colored P) :
    ∀ e ∈ barChart t c, e.Holds P := by
  unfold barChart
  simp only [List.forall_mem_append]
  refine ⟨⟨⟨⟨holds_of_mem_ticks ht h.ticks, holds_of_mem_axes ht c.plot⟩, ?_⟩,
    holds_of_mem_labels ht h.categories⟩, holds_of_mem_legend ht h.legend none⟩
  rw [List.forall_mem_flatMap]
  exact fun b hb => holds_of_mem_bar ht (h.bars b hb)

theorem holds_of_mem_pieChart {c : PieChart Float} (h : c.Colored P) :
    ∀ e ∈ pieChart t c, e.Holds P := by
  have hplain := ht.plain
  have hbackground := ht.background
  unfold pieChart
  simp only [List.forall_mem_append, List.forall_mem_map]
  refine ⟨⟨fun s hs => ⟨?_, by simp⟩, fun s hs => holds_label ht (h.slices s hs).label⟩,
    holds_of_mem_legend ht h.legend none⟩
  have hcolor := (h.slices s hs).color
  have hpath := ht.plain _ (isPlain_path s.path)
  simp (disch := first | assumption | decide)

theorem holds_of_mem_lineChart {c : LineChart Float} (h : c.Colored P) :
    ∀ e ∈ lineChart t c, e.Holds P := by
  have hplain := ht.plain
  unfold lineChart
  simp only [List.forall_mem_append, List.forall_mem_flatMap, List.forall_mem_cons]
  refine ⟨⟨⟨⟨holds_of_mem_ticks ht h.ticks, holds_of_mem_axes ht c.plot⟩, fun ml hml => ?_⟩,
    fun s hs => ⟨⟨?_, by simp⟩, ?_⟩⟩, holds_of_mem_legend ht h.legend none⟩
  · have hlabel := h.categories ml.2 (List.of_mem_zip hml).2
    exact ⟨holds_segment ht ht.axisColor _ _, holds_label ht hlabel, by simp⟩
  · have hcolor := (h.series s hs).color
    have hpath := ht.plain _ (isPlain_path s.path)
    simp (disch := first | assumption | decide)
  · exact fun p hp => ⟨holds_dot ht (h.series s hs).color _ _ _,
      holds_label ht ((h.series s hs).points p hp), by simp⟩

theorem holds_of_mem_radarChart {c : RadarChart Float} (h : c.Colored P) :
    ∀ e ∈ radarChart t c, e.Holds P := by
  have hplain := ht.plain
  have hring := ht.ringColor
  unfold radarChart
  simp only [List.forall_mem_append, List.forall_mem_flatMap, List.forall_mem_cons]
  refine ⟨⟨⟨fun r hr => ⟨⟨?_, by simp⟩, holds_of_mem_option ht (h.rings r hr)⟩, fun a ha =>
    ⟨holds_segment ht ht.spokeColor _ _, holds_label ht (h.axes a ha), by simp⟩⟩,
    fun s hs => ⟨⟨?_, by simp⟩, ?_⟩⟩, holds_of_mem_legend ht h.legend _⟩
  · simp (disch := first | assumption | decide)
  · have hcolor := (h.series s hs).color
    have hpath := ht.plain _ (isPlain_path s.path)
    simp (disch := first | assumption | decide)
  · exact fun p hp => ⟨holds_dot ht (h.series s hs).color _ _ _,
      holds_label ht ((h.series s hs).points p hp), by simp⟩

theorem holds_of_mem_processDiagram {d : ProcessDiagram Float}
    (h : ∀ s ∈ d.steps, s.Colored P) : ∀ e ∈ processDiagram t d, e.Holds P := by
  have hplain := ht.plain
  have hconnector := ht.connectorColor
  unfold processDiagram
  simp only [List.forall_mem_append, List.forall_mem_flatMap, List.forall_mem_cons,
    List.forall_mem_map]
  refine ⟨fun s hs => ⟨holds_box ht ?_ _ _ _ _, holds_label ht (h s hs).title, fun l hl =>
    holds_label ht ((h s hs).description l hl)⟩, fun a ha => ⟨?_, by simp⟩⟩
  · have hcolor := (h s hs).color
    simp (disch := first | assumption | decide)
  · have hpath := ht.plain _ (isPlain_path a)
    simp (disch := first | assumption | decide)

theorem holds_of_mem_timeline {l : Timeline Float} (h : ∀ e ∈ l.events, e.Colored P) :
    ∀ e ∈ timeline t l, e.Holds P := by
  unfold timeline
  simp only [List.forall_mem_append, List.forall_mem_flatMap, List.forall_mem_cons]
  refine ⟨holds_segment ht ht.dividerColor _ _, fun e he => ⟨⟨⟨?_, ?_⟩, ?_⟩,
    holds_of_mem_option ht (h e he).description⟩⟩
  · cases e.connector with
    | none => simp
    | some c => simpa using holds_segment ht (h e he).color c 2
  · exact ⟨holds_dot ht (h e he).color _ _ _, holds_label ht (h e he).date, by simp⟩
  · split
    · simp
    · simpa using holds_label ht (h e he).title

theorem holds_of_mem_comparisonChart {c : ComparisonChart Float} (h : c.Colored P) :
    ∀ e ∈ comparisonChart t c, e.Holds P := by
  unfold comparisonChart
  simp only [List.forall_mem_append, List.forall_mem_flatMap, List.forall_mem_cons]
  refine ⟨⟨holds_segment ht ht.dividerColor _ _, holds_label ht h.leftName,
    holds_label ht h.rightName, by simp⟩, fun g hg => ?_⟩
  have hgroup := h.groups g hg
  exact ⟨holds_label ht hgroup.category, holds_of_mem_bar ht hgroup.left,
    holds_of_mem_bar ht hgroup.right⟩

theorem holds_of_mem_placeholder (b : Placeholder Float) :
    ∀ e ∈ placeholder t b, e.Holds P := by
  have hplain := ht.plain
  have hbackground := ht.placeholderBackground
  have hborder := ht.placeholderBorder
  unfold placeholder
  simp only [List.forall_mem_cons]
  refine ⟨holds_box ht ?_ _ _ _ _, holds_label ht ?_, by simp⟩
  · simp (disch := first | assumption | decide)
  · exact Label.colored_of_some rfl ht.placeholderTextColor

/-- **Every element of a diagram has the property.** -/
theorem holds_of_mem_diagram {d : Diagram Float} (h : d.Colored P) :
    ∀ e ∈ diagram t d, e.Holds P := by
  cases d with
  | bar c => exact holds_of_mem_barChart ht h
  | pie c => exact holds_of_mem_pieChart ht h
  | line c => exact holds_of_mem_lineChart ht h
  | radar c => exact holds_of_mem_radarChart ht h
  | process d => exact holds_of_mem_processDiagram ht h
  | timeline l => exact holds_of_mem_timeline ht h
  | comparison c => exact holds_of_mem_comparisonChart ht h
  | placeholder b => exact holds_of_mem_placeholder ht b

/-! ## The whole drawing -/

/-- **Every element of a drawing has the property**: its background, its title and those of the diagram. -/
theorem holds_of_mem_elements {l : Layout Float} (h : Layout.Colored P l) :
    ∀ e ∈ (ofLayout t l).elements, e.Holds P := by
  have hplain := ht.plain
  have hbackground := ht.background
  unfold ofLayout
  simp only [List.forall_mem_append, List.forall_mem_cons, List.cons_append]
  refine ⟨⟨?_, by simp⟩, holds_of_mem_option ht h.title, holds_of_mem_diagram ht h.diagram⟩
  simp (disch := first | assumption | decide)

omit ht in
/-- The font is escaped, and the other attributes of the root hold no markup. -/
theorem isSafe_of_mem_attributes (l : Layout Float) :
    ∀ a ∈ (ofLayout t l).attributes, a.IsSafe := by
  have hplain : ∀ s, IsPlain s → IsPlain s := fun _ => id
  have hnameSpace : IsPlain nameSpace := by decide
  have hview : IsPlain ("0 0 " ++ Written.full (greater l.width 1) ++ " " ++
      Written.full (greater l.height 1)) := by
    have hcorner : IsPlain "0 0 " := by decide
    have hblank : IsPlain " " := by decide
    exact ((hcorner.append (isPlain_plain _)).append hblank).append (isPlain_plain _)
  have hname : IsName "font-family".toList := by decide
  have hfont : Attribute.IsSafe ⟨"font-family", escaped t.fontFamily⟩ :=
    ⟨hname, t.fontFamily.toList, String.toList_ofList⟩
  unfold ofLayout
  simp only [List.forall_mem_cons]
  exact ⟨(holds_word hplain (by decide) hnameSpace).isSafe,
    (holds_measure hplain (by decide) _).isSafe, (holds_measure hplain (by decide) _).isSafe,
    (holds_word hplain (by decide) hview).isSafe, hfont, by simp⟩

/-! ## What is read -/

section Reading

omit ht

variable (hcolors : HasPlainColors t)
include hcolors

/-- What is without markup is read as it is written. -/
theorem isSafe_of_mem_elements {l : Layout Float} (h : Layout.Colored IsPlain l) :
    ∀ e ∈ (ofLayout t l).elements, e.IsSafe :=
  fun e he => (holds_of_mem_elements hcolors.permits h e he).isSafe

/-- **The drawing of a layout is read as its root with its elements inside.** -/
theorem root?_svg {l : Layout Float} (h : Layout.Colored IsPlain l) :
    Scan.root? (ofLayout t l).svg.toList = some (ofLayout t l).view := by
  unfold Drawing.svg
  rw [String.toList_ofList]
  exact root?_chars (isSafe_of_mem_attributes l) (isSafe_of_mem_elements hcolors h)

end Reading

end Infochart.Drawing
