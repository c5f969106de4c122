import Infochart.Drawing.OfLayout
import Infochart.Proofs.Drawing.Plain
import Infochart.Proofs.Layout.Binary64
import Infochart.Proofs.Layout.Defined
import Infochart.Proofs.Property.Line
import Infochart.Proofs.Text.Search

/-!
# Drawings without undefined numbers

Finite numbers are written with digits, a sign and a point, and paths add their letters; what is not
finite is written with letters of its own. So a drawing of a defined layout holds no number that is not
one: every measure of every element is written with figures.

Which attributes are measures is said by a list of names, and an attribute with another name may hold any
text, even one with such letters: a font may be called that, and so may a color. The drawing is gone through
as for its markup, one lemma for each function that makes elements, but over any scale, since the functions
of the circle are not fixed here.
-/

namespace Infochart.Drawing

open Layout

/-! ## Figures -/

/-- The characters that measures are written with: those of numbers, of paths and of percentages. -/
def figures : List Char :=
  ['0', '1', '2', '3', '4', '5', '6', '7', '8', '9', '.', '-', ' ', ',', '%', 'M', 'L', 'A', 'Z']

def IsFigures (s : String) : Prop :=
  ∀ c ∈ s.toList, c ∈ figures

instance (s : String) : Decidable (IsFigures s) :=
  inferInstanceAs (Decidable (∀ c ∈ s.toList, c ∈ figures))

theorem IsFigures.append {a b : String} (ha : IsFigures a) (hb : IsFigures b) :
    IsFigures (a ++ b) := by
  intro c hc
  rw [String.toList_append] at hc
  exact (List.mem_append.1 hc).elim (ha c) (hb c)

/-- What stands for numbers that are not finite has letters that figures do not have. -/
theorem IsFigures.not_contains {s word : String} (h : IsFigures s) (hword : ¬ IsFigures word) :
    Text.contains word.toList s.toList = false := by
  rw [Bool.eq_false_iff, Ne, Text.contains_iff]
  intro hsub
  exact hword fun c hc => h c (hsub.subset hc)

theorem hasNumerals_figures : Decimal.HasNumerals (· ∈ figures) := by
  have hdigits : ∀ d < 10, Property.digitChar d ∈ figures := by decide
  refine ⟨fun c hc => ?_, by decide, by decide⟩
  obtain ⟨hlt, heq⟩ := Property.digitChar_toNat hc
  rw [← heq]
  exact hdigits _ hlt

/-- A finite number with all its digits. -/
theorem isFigures_plain {x : Float} (hx : Decimal.isFinite x = true) : IsFigures (Decimal.plain x) :=
  hasNumerals_figures.plain (.inl hx)

/-- A finite number with a fixed number of places. -/
theorem isFigures_places {x : Float} (hx : Decimal.isFinite x = true) (n : Nat) :
    IsFigures (Decimal.places n x) :=
  hasNumerals_figures.places (.inl hx) n

/-- Numbers of which the finite ones are written with figures. Widths of lines are literals of the drawing
    and not numbers of a layout, so they are asked for by themselves. -/
class WritesFigures (α : Type) [Scale α] [Written α] : Prop where
  places {x : α} : IsDefined x → IsFigures (Written.places 2 x)
  full {x : α} : IsDefined x → IsFigures (Written.full x)
  /-- Lines are at most two wide. -/
  count {n : Nat} : n ≤ 2 → IsDefined (n : α)

/-- Binary numbers are such, whatever the functions of the circle. -/
theorem writesFigures_circled (cos sin : Float → Float) :
    @WritesFigures Float (circled cos sin) _ := by
  have hcount : ∀ n ≤ 2, Decimal.isFinite (Float.ofNat n) = true := by decide +kernel
  exact @WritesFigures.mk Float (circled cos sin) _ (fun hx => isFigures_places hx 2)
    isFigures_plain (hcount _)

variable {α : Type} [Scale α]

/-- The numbers that are written for a movement are those that its layout has. -/
theorem isDefined_of_mem_moveNumbers {m : Move α} (h : m.Defined) :
    ∀ x ∈ moveNumbers m, IsDefined x := by
  cases m with
  | moveTo x y => exact List.forall_mem_cons.2 ⟨h.1, List.forall_mem_cons.2 ⟨h.2, by simp⟩⟩
  | lineTo x y => exact List.forall_mem_cons.2 ⟨h.1, List.forall_mem_cons.2 ⟨h.2, by simp⟩⟩
  | arcTo radius large x y =>
    exact List.forall_mem_cons.2
      ⟨h.1, List.forall_mem_cons.2 ⟨h.2.1, List.forall_mem_cons.2 ⟨h.2.2, by simp⟩⟩⟩
  | close => simp [moveNumbers]

variable [Written α] [WritesFigures α]

theorem isDefined_literal {n : Nat} (hn : n ≤ 2) : IsDefined (OfNat.ofNat n : α) :=
  WritesFigures.count hn

/-- A path with finite numbers. -/
theorem isFigures_path {p : Path α} (h : p.Defined) : IsFigures p.text := by
  have hletters : ∀ d ∈ pathLetters, d ∈ figures := by decide
  intro c hc
  rcases mem_path hc with hc | ⟨m, hm, x, hx, hc⟩
  · exact hletters c hc
  · have hx := isDefined_of_mem_moveNumbers (h m hm) x hx
    exact hc.elim (WritesFigures.places hx c) (WritesFigures.full hx c)

/-! ## Attributes -/

/-- The attributes whose values are measures or paths. -/
def measures : List String :=
  ["x", "y", "x1", "y1", "x2", "y2", "cx", "cy", "r", "rx", "ry", "width", "height", "viewBox", "d",
   "font-size", "stroke-width", "fill-opacity"]

/-- Whether an attribute, if it is a measure, is written with figures. -/
def Attribute.IsMeasured (a : Attribute) : Prop :=
  a.name ∈ measures → IsFigures a.value

def Element.IsMeasured (e : Element) : Prop :=
  ∀ a ∈ e.attributes, a.IsMeasured

theorem isMeasured_of_figures {name value : String} (h : IsFigures value) :
    Attribute.IsMeasured ⟨name, value⟩ :=
  fun _ => h

/-- An attribute that is no measure may have any value. -/
theorem isMeasured_of_word {name value : String} (h : name ∉ measures) :
    Attribute.IsMeasured ⟨name, value⟩ :=
  fun hname => absurd hname h

@[simp] theorem isMeasured_fill (value : String) : Attribute.IsMeasured ⟨"fill", value⟩ :=
  isMeasured_of_word (by decide)

@[simp] theorem isMeasured_stroke (value : String) : Attribute.IsMeasured ⟨"stroke", value⟩ :=
  isMeasured_of_word (by decide)

@[simp] theorem isMeasured_at2 (name : String) {x : α} (hx : IsDefined x) :
    (at2 name x).IsMeasured :=
  isMeasured_of_figures (WritesFigures.places hx)

@[simp] theorem isMeasured_measure (name : String) {x : α} (hx : IsDefined x) :
    (measure name x).IsMeasured :=
  isMeasured_of_figures (WritesFigures.full hx)

/-! ## Elements -/

theorem isMeasured_segment {s : Segment α} (h : s.Defined) (stroke : String) {width : α}
    (hwidth : IsDefined width) : (segment s stroke width).IsMeasured := by
  unfold Element.IsMeasured segment
  simp [h.x₁, h.y₁, h.x₂, h.y₂, hwidth]

theorem isMeasured_dot {x y radius : α} (hx : IsDefined x) (hy : IsDefined y)
    (hradius : IsDefined radius) (fill : String) : (dot x y radius fill).IsMeasured := by
  unfold Element.IsMeasured dot
  simp [hx, hy, hradius]

theorem isMeasured_box {x y width height : α} (hx : IsDefined x) (hy : IsDefined y)
    (hwidth : IsDefined width) (hheight : IsDefined height) {more : List Attribute}
    (hmore : ∀ a ∈ more, a.IsMeasured) : (box x y width height more).IsMeasured := by
  unfold Element.IsMeasured box
  simp only [List.forall_mem_append, List.forall_mem_cons]
  exact ⟨⟨isMeasured_at2 _ hx, isMeasured_at2 _ hy, isMeasured_at2 _ hwidth,
    isMeasured_at2 _ hheight, by simp⟩, hmore⟩

/-- A path of a diagram, with a width of its line and perhaps an opacity. -/
theorem isMeasured_path {p : Path α} (h : p.Defined) {more : List Attribute}
    (hmore : ∀ a ∈ more, a.IsMeasured) :
    Element.IsMeasured { tag := .path, attributes := ⟨"d", p.text⟩ :: more } := by
  unfold Element.IsMeasured
  exact List.forall_mem_cons.2 ⟨isMeasured_of_figures (isFigures_path h), hmore⟩

variable (t : Theme α)

theorem isMeasured_label {l : Label α} (h : l.Defined) : (label t l).IsMeasured := by
  have hanchor (v : String) : Attribute.IsMeasured ⟨"text-anchor", v⟩ :=
    isMeasured_of_word (by decide)
  have hweight (v : String) : Attribute.IsMeasured ⟨"font-weight", v⟩ :=
    isMeasured_of_word (by decide)
  have hline (v : String) : Attribute.IsMeasured ⟨"dominant-baseline", v⟩ :=
    isMeasured_of_word (by decide)
  unfold Element.IsMeasured label
  cases l.bold <;> cases l.centered <;> simp [h.x, h.y, h.size, hanchor, hweight, hline]

theorem isMeasured_label? {l : Option (Label α)} (h : ∀ x ∈ l, x.Defined) :
    ∀ e ∈ (l.map (label t)).toList, e.IsMeasured := by
  cases l with
  | none => simp
  | some x => simpa using isMeasured_label t (h x rfl)

theorem isMeasured_labels {ls : List (Label α)} (h : ∀ l ∈ ls, l.Defined) :
    ∀ e ∈ ls.map (label t), e.IsMeasured := by
  rw [List.forall_mem_map]
  exact fun l hl => isMeasured_label t (h l hl)

/-! ## Parts that the charts share -/

theorem isMeasured_ticks {ts : List (Tick α)} (h : ∀ k ∈ ts, k.Defined) :
    ∀ e ∈ ticks t ts, e.IsMeasured := by
  unfold ticks
  rw [List.forall_mem_flatMap]
  intro k hk
  simp only [List.forall_mem_cons]
  exact ⟨isMeasured_segment (h k hk).gridline _ (isDefined_literal (by decide)),
    isMeasured_segment (h k hk).mark _ (isDefined_literal (by decide)),
    isMeasured_label t (h k hk).label, by simp⟩

theorem isMeasured_axes {plot : Area α} (h : plot.Defined) :
    ∀ e ∈ axes t plot, e.IsMeasured := by
  unfold axes
  simp only [List.forall_mem_cons]
  exact ⟨isMeasured_segment h.leftEdge _ (isDefined_literal (by decide)),
    isMeasured_segment h.bottomEdge _ (isDefined_literal (by decide)), by simp⟩

theorem isMeasured_legend {items : List (LegendItem α)} (h : ∀ i ∈ items, i.Defined)
    {opacity : Option α} (hopacity : ∀ x ∈ opacity, IsDefined x) :
    ∀ e ∈ legend t opacity items, e.IsMeasured := by
  unfold legend
  rw [List.forall_mem_flatMap]
  intro i hi
  have hmore : ∀ a ∈ ⟨"fill", i.color⟩ :: (opacity.map (measure "fill-opacity")).toList,
      a.IsMeasured := by
    cases opacity with
    | none => simp
    | some x => simp [hopacity x rfl]
  simp only [List.forall_mem_cons]
  exact ⟨isMeasured_box (h i hi).x (h i hi).y (h i hi).width (h i hi).height hmore,
    isMeasured_label t (h i hi).label, by simp⟩

theorem isMeasured_bar {b : Bar α} (h : b.Defined) : ∀ e ∈ bar t b, e.IsMeasured := by
  unfold bar
  simp only [List.forall_mem_cons]
  exact ⟨isMeasured_box h.x h.y h.width h.height (by simp), isMeasured_label t h.label, by simp⟩

/-! ## The eight kinds of diagrams -/

theorem isMeasured_barChart {c : BarChart α} (h : c.Defined) :
    ∀ e ∈ barChart t c, e.IsMeasured := by
  unfold barChart
  simp only [List.forall_mem_append]
  refine ⟨⟨⟨⟨isMeasured_ticks t h.ticks, isMeasured_axes t h.plot⟩, ?_⟩,
    isMeasured_labels t h.categories⟩, isMeasured_legend t h.legend (by simp)⟩
  rw [List.forall_mem_flatMap]
  exact fun b hb => isMeasured_bar t (h.bars b hb)

theorem isMeasured_pieChart {c : PieChart α} (h : c.Defined) :
    ∀ e ∈ pieChart t c, e.IsMeasured := by
  have hwidth : Attribute.IsMeasured ⟨"stroke-width", "1"⟩ := isMeasured_of_figures (by decide)
  unfold pieChart
  simp only [List.forall_mem_append, List.forall_mem_map]
  exact ⟨⟨fun s hs => isMeasured_path (h.slices s hs).path (by simp [hwidth]),
    fun s hs => isMeasured_label t (h.slices s hs).percentLabel⟩,
    isMeasured_legend t h.legend (by simp)⟩

theorem isMeasured_lineChart {c : LineChart α} (h : c.Defined) :
    ∀ e ∈ lineChart t c, e.IsMeasured := by
  unfold lineChart
  simp only [List.forall_mem_append, List.forall_mem_flatMap, List.forall_mem_cons]
  refine ⟨⟨⟨⟨isMeasured_ticks t h.ticks, isMeasured_axes t h.plot⟩, fun ml hml => ?_⟩,
    fun s hs => ⟨isMeasured_path (h.series s hs).path (by simp [h.strokeWidth]), fun p hp => ?_⟩⟩,
    isMeasured_legend t h.legend (by simp)⟩
  · obtain ⟨hmark, hlabel⟩ := List.of_mem_zip hml
    exact ⟨isMeasured_segment (h.marks ml.1 hmark) _ (isDefined_literal (by decide)),
      isMeasured_label t (h.categories ml.2 hlabel), by simp⟩
  · have hpoint := (h.series s hs).points p hp
    exact ⟨isMeasured_dot hpoint.x hpoint.y h.pointRadius _, isMeasured_label t hpoint.label,
      by simp⟩

theorem isMeasured_radarChart {c : RadarChart α} (h : c.Defined) :
    ∀ e ∈ radarChart t c, e.IsMeasured := by
  have hwidth (v : String) (hv : IsFigures v) : Attribute.IsMeasured ⟨"stroke-width", v⟩ :=
    isMeasured_of_figures hv
  unfold radarChart
  simp only [List.forall_mem_append, List.forall_mem_flatMap, List.forall_mem_cons]
  refine ⟨⟨⟨fun r hr => ⟨?_, isMeasured_label? t (h.rings r hr).label⟩, fun a ha =>
    ⟨isMeasured_segment (h.axes a ha).spoke _ (isDefined_literal (by decide)),
      isMeasured_label t (h.axes a ha).label, by simp⟩⟩,
    fun s hs => ⟨isMeasured_path (h.series s hs).path ?_, fun p hp => ?_⟩⟩,
    isMeasured_legend t h.legend (by simp [h.fillOpacity])⟩
  · unfold Element.IsMeasured
    simp [h.centerX, h.centerY, (h.rings r hr).radius, hwidth "1" (by decide)]
  · simp [h.fillOpacity, hwidth "2" (by decide)]
  · have hpoint := (h.series s hs).points p hp
    exact ⟨isMeasured_dot hpoint.x hpoint.y h.pointRadius _, isMeasured_label t hpoint.label,
      by simp⟩

theorem isMeasured_processDiagram {d : ProcessDiagram α} (h : d.Defined) :
    ∀ e ∈ processDiagram t d, e.IsMeasured := by
  have hwidth : Attribute.IsMeasured ⟨"stroke-width", "2"⟩ := isMeasured_of_figures (by decide)
  unfold processDiagram
  simp only [List.forall_mem_append, List.forall_mem_flatMap, List.forall_mem_cons,
    List.forall_mem_map]
  refine ⟨fun s hs => ?_, fun a ha => isMeasured_path (h.arrows a ha) (by simp [hwidth])⟩
  have hstep := h.steps s hs
  exact ⟨isMeasured_box hstep.x hstep.y hstep.width hstep.height (by simp [h.cornerRadius]),
    isMeasured_label t hstep.title, fun l hl => isMeasured_label t (hstep.description l hl)⟩

theorem isMeasured_timeline {l : Timeline α} (h : l.Defined) :
    ∀ e ∈ timeline t l, e.IsMeasured := by
  unfold timeline
  simp only [List.forall_mem_append, List.forall_mem_flatMap, List.forall_mem_cons]
  refine ⟨isMeasured_segment h.axis _ h.axisWidth, fun e he => ?_⟩
  have hevent := h.events e he
  refine ⟨⟨⟨?_, isMeasured_dot hevent.x hevent.y h.dotRadius _, isMeasured_label t hevent.date,
    by simp⟩, ?_⟩, isMeasured_label? t hevent.description⟩
  · cases hc : e.connector with
    | none => simp
    | some c =>
      exact List.forall_mem_singleton.2
        (isMeasured_segment (hevent.connector c hc) e.color (isDefined_literal (by decide)))
  · split
    · simp
    · simpa using isMeasured_label t hevent.title

theorem isMeasured_comparisonChart {c : ComparisonChart α} (h : c.Defined) :
    ∀ e ∈ comparisonChart t c, e.IsMeasured := by
  unfold comparisonChart
  simp only [List.forall_mem_append, List.forall_mem_flatMap, List.forall_mem_cons]
  refine ⟨⟨isMeasured_segment h.divider _ (isDefined_literal (by decide)),
    isMeasured_label t h.leftName, isMeasured_label t h.rightName, by simp⟩, fun g hg => ?_⟩
  have hgroup := h.groups g hg
  exact ⟨isMeasured_label t hgroup.category, isMeasured_bar t hgroup.left,
    isMeasured_bar t hgroup.right⟩

variable {t} (ht : t.NoticeDefined)
include ht

theorem isMeasured_placeholder {b : Placeholder α} (h : b.Defined) :
    ∀ e ∈ placeholder t b, e.IsMeasured := by
  have hround (name : String) : Attribute.IsMeasured ⟨name, "4"⟩ :=
    isMeasured_of_figures (by decide)
  have hwidth : Attribute.IsMeasured ⟨"stroke-width", "1"⟩ := isMeasured_of_figures (by decide)
  unfold placeholder
  simp only [List.forall_mem_cons]
  exact ⟨isMeasured_box h.x h.y h.width h.height (by simp [hround, hwidth]),
    isMeasured_label t ⟨h.middleX, h.middleY, ht⟩, by simp⟩

/-- **The measures of a defined diagram are written with figures**, in each of the eight kinds. -/
theorem isMeasured_diagram {d : Diagram α} (h : d.Defined) :
    ∀ e ∈ diagram t d, e.IsMeasured := by
  cases d with
  | bar c => exact isMeasured_barChart t h
  | pie c => exact isMeasured_pieChart t h
  | line c => exact isMeasured_lineChart t h
  | radar c => exact isMeasured_radarChart t h
  | process d => exact isMeasured_processDiagram t h
  | timeline l => exact isMeasured_timeline t h
  | comparison c => exact isMeasured_comparisonChart t h
  | placeholder b => exact isMeasured_placeholder ht h

/-! ## The whole drawing -/

omit [Written α] [WritesFigures α] ht in
theorem isDefined_greater {x y : α} (hx : IsDefined x) (hy : IsDefined y) :
    IsDefined (greater x y) := by
  unfold greater
  split
  · exact hx
  · split
    · exact hy
    · exact hx

/-- All attributes of a drawing, those of its root first. -/
def allAttributes (d : Drawing) : List Attribute :=
  d.attributes ++ d.elements.flatMap Element.attributes

/-- **The measures of a defined layout are drawn with figures.** -/
theorem isMeasured_ofLayout {l : Layout α} (h : l.Defined) :
    ∀ a ∈ allAttributes (ofLayout t l), a.IsMeasured := by
  have hwidth := isDefined_greater h.width (isDefined_literal (n := 1) (by decide))
  have hheight := isDefined_greater h.height (isDefined_literal (n := 1) (by decide))
  have hview : Attribute.IsMeasured ⟨"viewBox", "0 0 " ++ Written.full (greater l.width 1) ++ " " ++
      Written.full (greater l.height 1)⟩ := by
    have hcorner : IsFigures "0 0 " := by decide
    have hblank : IsFigures " " := by decide
    exact isMeasured_of_figures (((hcorner.append (WritesFigures.full hwidth)).append hblank).append
      (WritesFigures.full hheight))
  have hspace (v : String) : Attribute.IsMeasured ⟨"xmlns", v⟩ := isMeasured_of_word (by decide)
  have hfont (v : String) : Attribute.IsMeasured ⟨"font-family", v⟩ := isMeasured_of_word (by decide)
  have hfull (name : String) : Attribute.IsMeasured ⟨name, "100%"⟩ :=
    isMeasured_of_figures (by decide)
  unfold allAttributes
  rw [List.forall_mem_append, List.forall_mem_flatMap]
  unfold ofLayout
  refine ⟨by simp [hwidth, hheight, hview, hspace, hfont], ?_⟩
  simp only [List.forall_mem_append, List.forall_mem_cons, List.cons_append]
  exact ⟨by simp [hfull], isMeasured_label? t h.title, isMeasured_diagram ht h.diagram⟩

/-- **So none of them is written as something else than a number.** -/
theorem not_contains_ofLayout {l : Layout α} (h : l.Defined) :
    ∀ a ∈ allAttributes (ofLayout t l), a.name ∈ measures →
      ∀ word ∈ ["NaN", "inf"], Text.contains word.toList a.value.toList = false := by
  have hwords : ∀ word ∈ ["NaN", "inf"], ¬ IsFigures word := by decide
  intro a ha hname word hword
  exact (isMeasured_ofLayout ht h a ha hname).not_contains (hwords word hword)

end Infochart.Drawing
