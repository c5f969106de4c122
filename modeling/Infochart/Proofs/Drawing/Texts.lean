import Infochart.Proofs.Drawing.Shapes

/-!
# Texts stay texts

Whatever characters the texts of a chart hold, its drawing is one element with shapes and texts in it,
and the texts in it are those of the chart. For the drawing is read back element by element, so the
texts can be read off the elements; there they stand in the order in which the parts of a diagram are
drawn, with a title of a timeline left out when it is empty.
-/

namespace Infochart

/-! ## The texts of a layout -/

namespace Layout

variable {α : Type}

/-- The texts of a diagram in the order in which they are drawn. -/
def Diagram.texts : Diagram α → List String
  | .bar c =>
    c.ticks.map (·.label.text) ++ c.bars.map (·.label.text) ++ c.categories.map Label.text
      ++ c.legend.map (·.label.text)
  | .pie c => c.slices.map (·.percentLabel.text) ++ c.legend.map (·.label.text)
  | .line c =>
    c.ticks.map (·.label.text) ++ c.categories.map Label.text
      ++ c.series.flatMap (fun s => s.points.map (·.label.text)) ++ c.legend.map (·.label.text)
  | .radar c =>
    c.rings.flatMap (fun r => (r.label.map Label.text).toList) ++ c.axes.map (·.label.text)
      ++ c.series.flatMap (fun s => s.points.map (·.label.text)) ++ c.legend.map (·.label.text)
  | .process d => d.steps.flatMap fun s => s.title.text :: s.description.map Label.text
  | .timeline l =>
    l.events.flatMap fun e =>
      e.date.text :: ((if e.title.text.isEmpty then [] else [e.title.text])
        ++ (e.description.map Label.text).toList)
  | .comparison c =>
    [c.leftName.text, c.rightName.text]
      ++ c.groups.flatMap fun g => [g.category.text, g.left.label.text, g.right.label.text]
  | .placeholder b => [b.reason.message]

/-- The texts of a layout in the order in which they are drawn. Only an empty title of an event is not
    drawn. -/
def texts (l : Layout α) : List String :=
  (l.title.map Label.text).toList ++ l.diagram.texts

/-- Whether every category of a line chart has a mark to be drawn with. -/
def Diagram.IsMarked : Diagram α → Prop
  | .line c => c.marks.length = c.categories.length
  | _ => True

variable [Scale α] [Written α]

theorem isMarked_ofPlan (p : Plan α) (t : Theme α) (s : Settings α) :
    (ofPlan p t s).diagram.IsMarked := by
  unfold ofPlan
  split
  · unfold barLayout
    simp only
    split <;> trivial
  · unfold pieLayout
    simp only
    split
    · trivial
    · split <;> trivial
  · unfold lineLayout
    simp only
    split
    · trivial
    · show List.length _ = List.length _
      rw [List.length_map, List.length_map, List.length_range, List.length_zipIdx]
  · unfold radarLayout
    simp only
    split <;> trivial
  · unfold processLayout
    split <;> trivial
  · unfold timelineLayout
    split <;> trivial
  · unfold comparisonLayout
    simp only
    split
    · split <;> trivial
    · trivial

end Layout

namespace Drawing

open Layout

/-! ## The contents of a drawing -/

section Contents

variable {α : Type} [Written α]

@[simp] theorem content_segment (s : Segment α) (stroke : String) (width : α) :
    (segment s stroke width).content = none := rfl

@[simp] theorem content_dot (x y radius : α) (fill : String) :
    (dot x y radius fill).content = none := rfl

@[simp] theorem content_box (x y width height : α) (more : List Attribute) :
    (box x y width height more).content = none := rfl

@[simp] theorem content_label (t : Theme α) (l : Label α) : (label t l).content = some l.text := rfl

/-- The contents of some elements, in their order. -/
def contents (es : List Element) : List String :=
  es.filterMap Element.content

@[simp] theorem contents_nil : contents [] = [] := rfl

@[simp] theorem contents_cons (e : Element) (es : List Element) :
    contents (e :: es) = e.content.toList ++ contents es := by
  unfold contents
  rw [List.filterMap_cons]
  cases e.content <;> rfl

@[simp] theorem contents_append (es fs : List Element) :
    contents (es ++ fs) = contents es ++ contents fs :=
  List.filterMap_append

/-- The contents of what the items of a list are drawn as. -/
@[simp] theorem contents_flatMap {β : Type} (f : β → List Element) (bs : List β) :
    contents (bs.flatMap f) = bs.flatMap fun b => contents (f b) := by
  induction bs with
  | nil => rfl
  | cons b bs ih => rw [List.flatMap_cons, contents_append, ih, List.flatMap_cons]

@[simp] theorem contents_map {β : Type} (f : β → Element) (bs : List β) :
    contents (bs.map f) = bs.filterMap fun b => (f b).content :=
  List.filterMap_map

@[simp] theorem contents_label? (t : Theme α) (l : Option (Label α)) :
    contents (l.map (label t)).toList = (l.map Label.text).toList := by
  cases l <;> rfl

@[simp] theorem contents_segment? (s : Option (Segment α)) (stroke : String) (width : α) :
    contents (s.map fun x => segment x stroke width).toList = [] := by
  cases s <;> rfl

variable (t : Theme α)

@[simp] theorem contents_legend (opacity : Option α) (items : List (LegendItem α)) :
    contents (legend t opacity items) = items.map (·.label.text) := by
  rw [List.map_eq_flatMap]
  simp [legend]

@[simp] theorem contents_bar (b : Bar α) : contents (bar t b) = [b.label.text] := by
  simp [bar]

variable [Scale α]

@[simp] theorem contents_ticks (ts : List (Tick α)) :
    contents (ticks t ts) = ts.map (·.label.text) := by
  rw [List.map_eq_flatMap]
  simp [ticks]

@[simp] theorem contents_axes (plot : Area α) : contents (axes t plot) = [] := by
  simp [axes]

/-- The contents of a diagram are its texts. -/
theorem contents_diagram {d : Diagram α} (h : d.IsMarked) : contents (diagram t d) = d.texts := by
  cases d with
  | bar c => simp [diagram, barChart, Diagram.texts, ← List.map_eq_flatMap]
  | pie c => simp [diagram, pieChart, Diagram.texts]
  | line c =>
    -- With a mark for every category, all categories are drawn.
    have hcategories : (c.marks.zip c.categories).flatMap (fun ml => [ml.2.text]) =
        c.categories.map Label.text := by
      have hsnd : (c.marks.zip c.categories).map Prod.snd = c.categories :=
        List.map_snd_zip (Nat.le_of_eq h.symm)
      have htexts := congrArg (List.map Label.text) hsnd
      rw [List.map_map] at htexts
      rw [← List.map_eq_flatMap]
      exact htexts
    simp [diagram, lineChart, Diagram.texts, hcategories, ← List.map_eq_flatMap]
  | radar c => simp [diagram, radarChart, Diagram.texts, ← List.map_eq_flatMap]
  | process d => simp [diagram, processDiagram, Diagram.texts]
  | timeline l =>
    simp [diagram, timeline, Diagram.texts, apply_ite contents]
  | comparison c => simp [diagram, comparisonChart, Diagram.texts]
  | placeholder b => simp [diagram, placeholder, Diagram.texts]

/-- **The contents of a drawing are the texts of its layout.** -/
theorem contents_ofLayout {l : Layout α} (h : l.diagram.IsMarked) :
    contents (ofLayout t l).elements = l.texts := by
  simp [ofLayout, contents_diagram t h, Layout.texts]

end Contents

/-! ## What a reader finds -/

/-- A shape: closed at once, and one of four names. -/
def Scan.Node.IsShape (n : Scan.Node) : Prop :=
  n.content = none ∧
    n.head.name ∈ ["rect".toList, "line".toList, "path".toList, "circle".toList]

/-- A text element, with its content between two tags. -/
def Scan.Node.IsText (n : Scan.Node) : Prop :=
  n.content.isSome = true ∧ n.head.name = "text".toList

theorem isShape_or_isText_view {e : Element} (h : e.IsSafe) : e.view.IsShape ∨ e.view.IsText := by
  have hcontent := h.content
  unfold Scan.Node.IsShape Scan.Node.IsText Element.view Element.head
  simp only [Option.map_eq_none_iff, Option.isSome_map]
  cases htag : e.tag with
  | text => exact .inr ⟨hcontent.2 htag, rfl⟩
  | _ =>
    refine .inl ⟨?_, by decide⟩
    rw [← Option.not_isSome_iff_eq_none, hcontent, htag]
    decide

theorem content_view (es : List Element) :
    (es.map Element.view).filterMap Scan.Node.content = (contents es).map String.toList := by
  unfold contents
  rw [List.filterMap_map, List.map_filterMap]
  rfl

/-- Every color of the layout of a map is one that may stand in the drawing. -/
theorem Permits.colored_ofMap {P : String → Prop} {t : Theme Float} (ht : Permits P t)
    (m : Property.Map) (s : Settings Float) : Layout.Colored P (ofMap m t s) := by
  unfold ofMap
  cases hspec : Chart.Spec.ofMap? s.defaultColorScheme m with
  | none => exact colored_placeholder _ _ _ _
  | some spec =>
    obtain ⟨kind, -, rfl⟩ := Option.map_eq_some_iff.1 hspec
    refine colored_ofPlan (fun i => ht.plain _ ?_) ht.onFillTextColor s
    exact isPlain_colorAt (isPlain_of_mem_resolve _) i

theorem colored_ofMap {t : Theme Float} (ht : HasPlainColors t) (m : Property.Map)
    (s : Settings Float) : Layout.Colored IsPlain (ofMap m t s) :=
  ht.permits.colored_ofMap m s

theorem isMarked_ofMap (m : Property.Map) (t : Theme Float) (s : Settings Float) :
    (ofMap m t s).diagram.IsMarked := by
  unfold ofMap
  cases Chart.Spec.ofMap? s.defaultColorScheme m with
  | none => trivial
  | some spec => exact isMarked_ofPlan _ t s

/-- **Texts stay texts.** Under a theme whose colors hold no markup, the drawing of any map is, from its
    first character to its last, one element with shapes and text elements in it, and the contents of
    the text elements, with their references replaced, are the texts of the layout in their order. -/
theorem texts_stay_texts {t : Theme Float} (ht : HasPlainColors t) (m : Property.Map)
    (s : Settings Float) :
    ∃ root, Scan.root? (ofLayout t (ofMap m t s)).svg.toList = some root ∧
      root.head.name = "svg".toList ∧
      (∀ n ∈ root.children, n.IsShape ∨ n.IsText) ∧
      root.children.filterMap Scan.Node.content = (ofMap m t s).texts.map String.toList := by
  have hcolored := colored_ofMap ht m s
  refine ⟨_, root?_svg ht hcolored, rfl, ?_, ?_⟩
  · show ∀ n ∈ (ofLayout t (ofMap m t s)).elements.map Element.view, _
    rw [List.forall_mem_map]
    exact fun e he => isShape_or_isText_view (isSafe_of_mem_elements ht hcolored e he)
  · show ((ofLayout t (ofMap m t s)).elements.map Element.view).filterMap Scan.Node.content = _
    rw [content_view, contents_ofLayout t (isMarked_ofMap m t s)]

/-- A title that ends its element and a step that opens one, in a font that ends its quotes. -/
theorem texts_stay_texts_of_tags :
    ∃ root, Scan.root? (ofLayout { Theme.classic with fontFamily := "\"><script>" }
        (ofMap (((Property.Map.empty.insert Property.Known.visualizationType.id
            (.text "process")).insert Property.Known.title.id (.text "</text>")).insert
            Property.Known.labels.id (.list [.text "<rect fill='&amp;'>"]))
          { Theme.classic with fontFamily := "\"><script>" } Settings.standard)).svg.toList =
        some root ∧
      root.children.filterMap Scan.Node.content =
        ["</text>".toList, "<rect fill='&amp;'>".toList] := by
  have ht : HasPlainColors { Theme.classic with fontFamily := "\"><script>" } := by
    constructor <;> decide
  obtain ⟨root, hroot, -, -, htexts⟩ := texts_stay_texts ht
    (((Property.Map.empty.insert Property.Known.visualizationType.id
      (.text "process")).insert Property.Known.title.id (.text "</text>")).insert
      Property.Known.labels.id (.list [.text "<rect fill='&amp;'>"])) Settings.standard
  refine ⟨root, hroot, htexts.trans ?_⟩
  decide +kernel

end Drawing

end Infochart
