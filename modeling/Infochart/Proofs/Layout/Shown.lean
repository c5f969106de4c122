import Infochart.Proofs.Layout.Bars
import Infochart.Proofs.Layout.Content
import Mathlib.Data.List.Nodup

/-!
# Diagrams show the content of their plan

Each kind of chart is laid out by rules of its own, and each either makes a box that says what is lacking
or a diagram that shows the content of the plan. `Outcome` states both at once, with the condition that
decides between them.

All layouts have one shape, a test for what is lacking and then a diagram, so `outcome_ite` takes the test
and the diagram apart once for all kinds. What is left for a kind is that its test is the condition, and
that its diagram, list by list, shows the content. Most lists are made from another one with positions, and
the laws on `zipIdx` say what such a list is once a part of its entries is looked at.
-/

namespace Infochart.Layout

open Chart (Kind)

section Shown

variable {α : Type}

/-! ## The content of a plan -/

/-- The series of a plan that a kind of chart draws. -/
def Plan.seriesFor (p : Plan α) : Kind → List (Series α)
  | .bar | .line => p.datasets 5
  | .pie => (p.filled? 1).toList
  | .radar => radarSeries p
  | .comparison => (p.filled? 1).toList ++ (p.filled? 2).toList
  | .process | .timeline => []

/-- The content of a plan as a chart of a given kind. -/
def Plan.content (p : Plan α) (kind : Kind) : Content α where
  labels := p.labels
  series := (p.seriesFor kind).map Series.entries
  color := p.color
  name := p.seriesName

theorem Plan.item?_content (p : Plan α) (kind : Kind) (i j : Nat) :
    (p.content kind).item? i j = (p.seriesFor kind)[i]?.bind fun d => d.entries[j]? := by
  unfold Plan.content Content.item?
  rw [List.getElem?_map, Option.bind_map]
  rfl

/-- Bars and lines need labels and a dataset, and so do the axes of a radar chart. -/
theorem Plan.isEmpty_or_iff (p : Plan α) (kind : Kind) :
    (p.labels.isEmpty || (p.seriesFor kind).isEmpty) = true ↔
      ¬ ((p.content kind).labels ≠ [] ∧ (p.content kind).series ≠ []) := by
  unfold Plan.content
  rw [Bool.or_eq_true, List.isEmpty_iff, List.isEmpty_iff, Ne, Ne, List.map_eq_nil_iff]
  tauto

/-! ## Lists with their positions -/

section Positions

variable {β γ δ : Type}

/-- What is the same at every position does not depend on the positions. -/
theorem map_map_zipIdx {f : β × Nat → γ} {g : γ → δ} {h : β → δ} (hfg : ∀ b i, g (f (b, i)) = h b)
    (bs : List β) : (bs.zipIdx.map f).map g = bs.map h := by
  rw [List.map_map]
  calc bs.zipIdx.map (g ∘ f) = bs.zipIdx.map (h ∘ Prod.fst) :=
        List.map_congr_left fun (b, i) _ => hfg b i
    _ = bs.map h := by rw [← List.map_map, List.zipIdx_map_fst]

/-- What depends on the positions alone. -/
theorem map_map_zipIdx_snd {f : β × Nat → γ} {g : γ → δ} {h : Nat → δ} {bs : List β}
    (hfg : ∀ b i, bs[i]? = some b → g (f (b, i)) = h i) :
    (bs.zipIdx.map f).map g = (List.range bs.length).map h := by
  rw [List.map_map]
  calc bs.zipIdx.map (g ∘ f) = bs.zipIdx.map (h ∘ Prod.snd) :=
        List.map_congr_left fun (b, i) hb => hfg b i (List.mem_zipIdx_iff_getElem?.1 hb)
    _ = (List.range bs.length).map h := by
        rw [← List.map_map, List.zipIdx_map_snd, List.range_eq_range']

/-- Two lists made from one list with its positions agree entry by entry. -/
theorem forall₂_zipIdx {R : γ → δ × Nat → Prop} {f : β × Nat → γ} {g : β → δ}
    (h : ∀ b i, R (f (b, i)) (g b, i)) (bs : List β) :
    List.Forall₂ R (bs.zipIdx.map f) (bs.map g).zipIdx := by
  rw [List.zipIdx_map, List.forall₂_map_left_iff, List.forall₂_map_right_iff, List.forall₂_same]
  rintro ⟨b, i⟩ -
  exact h b i

/-- The positions in a list, each with the numbers below a bound. -/
def pairsBelow (bound : β → Nat) (bs : List β) : List (Nat × Nat) :=
  bs.zipIdx.flatMap fun (b, i) => (List.range (bound b)).map fun j => (i, j)

/-- Pairs of one position differ in the number, and pairs of two positions in the position. -/
theorem nodup_pairsBelow (bound : β → Nat) (bs : List β) : (pairsBelow bound bs).Nodup := by
  unfold pairsBelow
  rw [List.nodup_flatMap]
  refine ⟨fun (b, i) _ => List.nodup_range.map fun j j' h => congrArg Prod.snd h, ?_⟩
  have hpositions : (bs.zipIdx.map Prod.snd).Pairwise (· ≠ ·) := by
    rw [List.zipIdx_map_snd]
    exact List.nodup_range'
  refine (List.pairwise_map.1 hpositions).imp ?_
  rintro ⟨b, i⟩ ⟨b', i'⟩ hne q hq hq'
  obtain ⟨j, -, rfl⟩ := List.mem_map.1 hq
  obtain ⟨j', -, heq⟩ := List.mem_map.1 hq'
  exact hne (congrArg Prod.fst heq).symm

theorem mem_pairsBelow {bound : β → Nat} {bs : List β} {i j : Nat} :
    (i, j) ∈ pairsBelow bound bs ↔ ∃ b, bs[i]? = some b ∧ j < bound b := by
  simp only [pairsBelow, List.mem_flatMap, List.mem_map, List.mem_range, Prod.exists, Prod.mk.injEq,
    List.mem_zipIdx_iff_getElem?]
  constructor
  · rintro ⟨b, _, hb, _, hj, rfl, rfl⟩
    exact ⟨b, hb, hj⟩
  · rintro ⟨b, hb, hj⟩
    exact ⟨b, i, hb, j, hj, rfl, rfl⟩

theorem isSome_of_length_eq_two {o o' : Option β} (h : (o.toList ++ o'.toList).length = 2) :
    o.isSome ∧ o'.isSome := by
  cases o <;> cases o' <;> simp_all

end Positions

/-- Texts with a number where they are empty. -/
theorem map_numbered {γ : Type} {c : Content α} {word : String} {f : String × Nat → γ} {g : γ → String}
    (h : ∀ text i, g (f (text, i)) = numberedIfEmpty word text i) :
    (c.labels.zipIdx.map f).map g = c.numbered word := by
  unfold Content.numbered
  rw [List.map_map]
  exact List.map_congr_left fun (text, i) _ => h text i

/-- A legend that is there only with more than one series. -/
theorem rows_legend {c : Content α} {rows : List (LegendItem α)} {count : Nat}
    (hcount : c.series.length = count)
    (hrows : rows.map LegendItem.row = (List.range count).map fun i => (c.color i, c.name i)) :
    (if 1 < count then rows else []).map LegendItem.row = c.legend := by
  unfold Content.legend
  rw [hcount]
  split
  · exact hrows
  · rfl

variable [Scale α]

/-! ## What comes of a plan -/

/-- Whether a content has what a kind of chart requires. -/
def Content.Suffices (c : Content α) : Kind → Prop
  | .bar | .line | .radar => c.labels ≠ [] ∧ c.series ≠ []
  | .pie => c.labels ≠ [] ∧ ∃ es ∈ c.series,
      let sum := total ((es.map Entry.amount).filter (0 < ·))
      ¬ sum ≤ 0 ∧ Scale.isFinite sum = true
  | .comparison => c.labels ≠ [] ∧ c.series.length = 2
  | .process | .timeline => c.labels ≠ []

/-- Whether a layout is the box in place of a chart without what it requires. -/
def LacksData (kind : Kind) (l : Layout α) : Prop :=
  ∃ box requirement, l.diagram = .placeholder box ∧ box.reason = .insufficient kind requirement

/-- A diagram of a content that suffices, or a box in place of one that does not. -/
inductive Outcome [Written α] (kind : Kind) (c : Content α) (l : Layout α) : Prop where
  | drawn (enough : c.Suffices kind) (diagram : l.diagram.Shows kind c)
  | missing (lacking : ¬ c.Suffices kind) (box : LacksData kind l)

/-- A layout that is no box in place of a chart shows the content of its plan. -/
theorem Outcome.shows [Written α] {kind : Kind} {c : Content α} {l : Layout α}
    (h : Outcome kind c l) (hdrawn : l.isPlaceholder = false) : l.diagram.Shows kind c := by
  cases h with
  | drawn _ hshows => exact hshows
  | missing _ hbox =>
    obtain ⟨box, _, hdiagram, -⟩ := hbox
    unfold Layout.isPlaceholder at hdrawn
    rw [hdiagram] at hdrawn
    cases hdrawn

variable (p : Plan α) (t : Theme α) (s : Settings α)

theorem outcome_missing [Written α] {kind : Kind} {c : Content α} (h : ¬ c.Suffices kind)
    (requirement : String) : Outcome kind c (insufficient kind requirement s) :=
  .missing h ⟨_, requirement, rfl, rfl⟩

/-- The shape of all layouts: a box if a list is lacking, and a diagram otherwise. -/
theorem outcome_ite [Written α] {kind : Kind} {c : Content α} {requirement : String} {d : Diagram α}
    {lacking : Bool} (hlacking : lacking = true ↔ ¬ c.Suffices kind)
    (hd : c.Suffices kind → d.Shows kind c) :
    Outcome kind c
      (if lacking then insufficient kind requirement s else chartLayout p kind t s d) := by
  split
  case isTrue h => exact outcome_missing s (hlacking.1 h) requirement
  case isFalse h =>
    have henough := not_not.1 (mt hlacking.2 h)
    exact .drawn henough (hd henough)

variable {p t s} in
/-- A layout that is no box in place of a chart has the diagram itself. -/
theorem diagram_of_drawn [Written α] {kind : Kind} {requirement : String} {d : Diagram α}
    {lacking : Bool} (h : (if lacking then insufficient kind requirement s
      else chartLayout p kind t s d).isPlaceholder = false) :
    (if lacking then insufficient kind requirement s else chartLayout p kind t s d).diagram = d := by
  split at h
  case isTrue => cases h
  case isFalse hnot => rw [if_neg hnot, chartLayout]

/-! ## Bars -/

section Bars

variable [Written α] (f : BarFrame α) (color : String) (i j : Nat) (value : α)

@[simp] theorem series_bar : (f.bar t color i j value).series = i := by
  unfold BarFrame.bar
  cases f.orientation <;> rfl

@[simp] theorem category_bar : (f.bar t color i j value).category = j := by
  unfold BarFrame.bar
  cases f.orientation <;> rfl

@[simp] theorem value_bar : (f.bar t color i j value).value = value := by
  unfold BarFrame.bar
  cases f.orientation <;> rfl

@[simp] theorem color_bar : (f.bar t color i j value).color = color := by
  unfold BarFrame.bar
  cases f.orientation <;> rfl

@[simp] theorem text_bar : (f.bar t color i j value).label.text = Written.amount value := by
  unfold BarFrame.bar
  cases f.orientation <;> rfl

omit [Written α] in
@[simp] theorem text_categoryLabel (text : String) : (f.categoryLabel t text i).text = text := by
  unfold BarFrame.categoryLabel
  cases f.orientation <;> rfl

/-- The places of the bars of all series, one series behind the other. -/
theorem places_seriesBars (colors : Nat → String) (count : Nat) (series : List (Series α)) :
    (series.zipIdx.flatMap fun (d, i) => f.seriesBars t (colors i) i count d.amounts).map Bar.place =
      pairsBelow (fun d => min count d.entries.length) series := by
  unfold pairsBelow
  rw [List.map_flatMap]
  refine congrArg (List.flatMap · _) (funext fun (d, i) => ?_)
  unfold BarFrame.seriesBars
  rw [map_map_zipIdx_snd (h := fun j => (i, j)) fun v j _ => by simp [Bar.place], List.length_take]
  simp only [Series.amounts, List.length_map]

/-- The bars of all series. -/
theorem mem_seriesBars {b : Bar α} {colors : Nat → String} {count : Nat} {series : List (Series α)}
    (hb : b ∈ series.zipIdx.flatMap fun (d, i) => f.seriesBars t (colors i) i count d.amounts) :
    ∃ i j d e, series[i]? = some d ∧ d.entries[j]? = some e ∧
      b = f.bar t (colors i) i j e.amount := by
  obtain ⟨⟨d, i⟩, hd, hb⟩ := List.mem_flatMap.1 hb
  obtain ⟨⟨v, j⟩, hv, rfl⟩ := List.mem_map.1 hb
  rw [List.mem_zipIdx_iff_getElem?] at hd hv
  simp only [List.getElem?_take, Option.ite_none_right_eq_some, Series.amounts, List.getElem?_map,
    Option.map_eq_some_iff] at hv
  obtain ⟨-, e, he, rfl⟩ := hv
  exact ⟨i, j, d, e, hd, he, rfl⟩

end Bars

/-- A bar stands for an entry that has a label: series may be longer than the list of labels, and are cut
    there. -/
theorem outcome_barLayout [Written α] : Outcome .bar (p.content .bar) (barLayout p t s) := by
  unfold barLayout
  simp only
  refine outcome_ite p t s (p.isEmpty_or_iff .bar) fun _ => ?_
  exact {
    nodup := by
      rw [places_seriesBars]
      exact nodup_pairsBelow ..
    places := fun i j => by
      rw [places_seriesBars, mem_pairsBelow, Plan.item?_content]
      simp only [Nat.lt_min, Option.isSome_bind, Option.any_eq_true, isSome_getElem?]
      exact ⟨fun ⟨d, hd, hj, he⟩ => ⟨hj, d, hd, he⟩, fun ⟨hj, d, hd, he⟩ => ⟨d, hd, hj, he⟩⟩
    bars := fun b hb => by
      obtain ⟨i, j, d, e, hd, he, rfl⟩ := mem_seriesBars t _ hb
      rw [series_bar, category_bar, Plan.item?_content,
        show (p.seriesFor .bar)[i]? = some d from hd]
      exact ⟨color_bar .., e, he, value_bar .., text_bar ..⟩
    categories := by
      rw [map_map_zipIdx (h := id) fun text i => text_categoryLabel t _ i text, List.map_id]
      rfl
    legend := rows_legend (List.length_map _) List.map_map }

/-! ## Lines -/

theorem shows_lineSeries (f : LineFrame α) {c : Content α} (hcount : f.categories = c.labels.length)
    (d : Series α) (i : Nat) : (f.series t (c.name i) (c.color i) d).Shows c i d.entries where
  entries := by
    unfold LineFrame.series
    rw [hcount]
    exact map_map_zipIdx (fun e j => rfl) _
  vertices := vertices_polyline _ _
  color := rfl
  name := rfl

/-- The points of a line have the places of the first categories. -/
theorem map_x_lineSeries (f : LineFrame α) (name color : String) (d : Series α) :
    (f.series t name color d).points.map LinePoint.x <+: (List.range f.categories).map f.xAt := by
  unfold LineFrame.series
  rw [map_map_zipIdx_snd (h := f.xAt) fun _ _ _ => rfl, List.length_take, Nat.min_comm,
    ← List.take_range]
  exact (List.take_prefix _ _).map f.xAt

theorem outcome_lineLayout [Written α] : Outcome .line (p.content .line) (lineLayout p t s) := by
  unfold lineLayout
  simp only
  refine outcome_ite p t s (p.isEmpty_or_iff .line) fun _ => ?_
  exact {
    series := forall₂_zipIdx (shows_lineSeries t (LineFrame.of p s) (c := p.content .line) rfl) _
    categories := (map_map_zipIdx (h := id) (fun _ _ => rfl) _).trans (List.map_id _)
    legend := rows_legend (List.length_map _) List.map_map
    aligned := fun l hl => by
      obtain ⟨⟨d, i⟩, -, rfl⟩ := List.mem_map.1 hl
      rw [map_map_zipIdx_snd (h := (LineFrame.of p s).xAt) fun _ _ _ => rfl]
      exact map_x_lineSeries t (LineFrame.of p s) _ _ d }

/-! ## Radar charts -/

/-- There is a point on each axis, also where a series has no entry for it. -/
theorem shows_radarSeries (f : RadarFrame α) {c : Content α}
    (hcount : f.axisCount = c.labels.length) (d : Series α) (i : Nat) :
    (f.series t (c.name i) (c.color i) d).Shows c i d.entries where
  entries := by
    unfold RadarFrame.series
    rw [hcount, List.map_map]
    refine List.map_congr_left fun j _ => ?_
    unfold RadarFrame.point
    cases hentry : d.entries[j]? <;> simp [hentry]
  vertices := vertices_polyline _ _
  color := rfl
  name := rfl

omit [Scale α] in
theorem length_radarSeries {p : Plan α} (h : radarSeries p ≠ []) :
    (radarSeries p).length = 1 ∨ (radarSeries p).length = 2 := by
  unfold radarSeries at h ⊢
  cases hfirst : p.filled? 1 with
  | none => simp [hfirst] at h
  | some first => cases p.filled? 2 <;> simp

theorem outcome_radarLayout [Written α] :
    Outcome .radar (p.content .radar) (radarLayout p t s) := by
  unfold radarLayout
  simp only
  refine outcome_ite p t s (p.isEmpty_or_iff .radar) fun henough => ?_
  have hlength : ((radarSeries p).zipIdx.map fun (d, i) =>
      (RadarFrame.of p s).series t (p.seriesName i) (p.color i) d).length =
        (radarSeries p).length := by
    rw [List.length_map, List.length_zipIdx]
  exact {
    axes := map_numbered (c := p.content .radar) fun _ _ => rfl
    series := forall₂_zipIdx (shows_radarSeries t (RadarFrame.of p s) (c := p.content .radar) rfl) _
    count := by
      rw [hlength]
      exact length_radarSeries fun h => henough.2 (congrArg (List.map Series.entries) h)
    legend := by
      refine rows_legend ((List.length_map _).trans hlength.symm) (map_map_zipIdx_snd fun e i he => ?_)
      -- The rows take colors and names from the series at their positions.
      rw [List.getElem?_map, List.getElem?_zipIdx, Option.map_map] at he
      obtain ⟨d, -, rfl⟩ := Option.map_eq_some_iff.1 he
      simp [LegendItem.row, legendItem, RadarFrame.series, Plan.content] }

/-! ## Pies -/

/-- The positive amounts keep their places among all amounts. -/
theorem map_shares (f : PieFrame α) {values : List α} (hsign : ∀ v ∈ values, ¬ v ≤ 0 ↔ 0 < v)
    (index : Nat) (start : α) :
    (f.shares index start values).map (fun s => (s.value, s.index)) =
      (values.zipIdx index).filter (0 < ·.1) := by
  induction values generalizing index start with
  | nil => rfl
  | cons v r ih =>
    have hv := hsign v List.mem_cons_self
    have htail := fun w hw => hsign w (List.mem_cons_of_mem v hw)
    rw [List.zipIdx_cons, PieFrame.shares]
    by_cases hpos : 0 < v
    · rw [if_neg (hv.2 hpos), List.filter_cons_of_pos (by simpa using hpos), List.map_cons,
        ih htail]
    · rw [if_pos (not_not.1 (mt hv.1 hpos)), List.filter_cons_of_neg (by simpa using hpos),
        ih htail]

/-- The slices with the labels and colors of the positive amounts. -/
theorem map_slices [Written α] (f : PieFrame α) {d : Series α}
    (hsign : ∀ v ∈ d.amounts, ¬ v ≤ 0 ↔ 0 < v) :
    ((f.shares 0 0 d.amounts).map (f.slice p t)).map (fun s => (s.value, s.label, s.color)) =
      (d.entries.zipIdx.filter (0 < ·.1.amount)).map fun (e, i) =>
        (e.amount, p.labels[i]?.getD "", p.color i) := by
  let marked : α × Nat → α × String × String := fun (v, i) => (v, p.labels[i]?.getD "", p.color i)
  calc _ = ((f.shares 0 0 d.amounts).map fun s => (s.value, s.index)).map marked := by
        rw [List.map_map, List.map_map]
        rfl
    _ = (d.amounts.zipIdx.filter (0 < ·.1)).map marked := by rw [map_shares f hsign]
    _ = _ := by
        rw [Series.amounts, List.zipIdx_map, List.filter_map, List.map_map]
        rfl

/-- Pies test amounts for being zero or less, and content has those above zero. For numbers that are not
    ordered these differ, so it is assumed that they do not. -/
theorem outcome_pieLayout [Written α] (hsign : ∀ d ∈ p.series, ∀ v ∈ d.amounts, ¬ v ≤ 0 ↔ 0 < v) :
    Outcome .pie (p.content .pie) (pieLayout p t s) := by
  unfold pieLayout
  simp only
  split
  case h_1 hnone =>
    refine outcome_missing s ?_ _
    rintro ⟨-, es, hes, -⟩
    simp [Plan.content, Plan.seriesFor, hnone] at hes
  case h_2 d hd =>
    have hseries : (p.content .pie).series = [d.entries] := by
      simp [Plan.content, Plan.seriesFor, hd]
    refine outcome_ite p t s ?_ fun _ =>
      ⟨d.entries, hseries, map_slices p t _ (hsign d (mem_series_of_filled? hd))⟩
    simp only [Content.Suffices, hseries, List.mem_singleton, exists_eq_left, Bool.or_eq_true,
      decide_eq_true_eq, List.isEmpty_iff, Bool.not_eq_true', ← Bool.not_eq_true]
    unfold Plan.content Series.amounts
    tauto

/-! ## Processes and timelines -/

/-- An arrow starts where it leaves its step. -/
theorem head?_vertices_arrow (f : ProcessFrame α) (maxLines : Nat) (descriptions : List String)
    (label : String) (i : Nat) : (f.arrow i).vertices.head? =
      some ((f.step p t maxLines descriptions label i).outlet f.orientation) := by
  unfold ProcessFrame.arrow ProcessFrame.step
  cases f.orientation <;> rfl

theorem outcome_processLayout [Written α] :
    Outcome .process (p.content .process) (processLayout p t s) := by
  unfold processLayout
  refine outcome_ite p t s (List.isEmpty_iff.trans not_not.symm) fun _ => ?_
  exact {
    titles := map_numbered (c := p.content .process) fun _ _ => rfl
    arrows := by
      rw [List.map_dropLast, map_map_zipIdx_snd fun label i _ =>
        (head?_vertices_arrow p t _ _ _ label i).symm, ← List.map_dropLast, List.map_map,
        List.dropLast_eq_take, List.take_range, List.length_range, Nat.min_eq_left (Nat.sub_le _ _)]
      rfl }

theorem outcome_timelineLayout [Written α] :
    Outcome .timeline (p.content .timeline) (timelineLayout p t s) := by
  unfold timelineLayout
  refine outcome_ite p t s (List.isEmpty_iff.trans not_not.symm) fun _ => ?_
  exact {
    dates := map_numbered (c := p.content .timeline) fun text i => by
      cases p.orientation <;> rfl }

/-! ## Comparisons -/

theorem compares_bar (f : ComparisonFrame α) {d : Series α} {side : Nat}
    (hd : (p.seriesFor .comparison)[side]? = some d) (j : Nat) :
    (f.bar p t s.comparison d side j).Compares (p.content .comparison) side j where
  place := rfl
  value := by
    rw [Plan.item?_content, hd]
    rfl
  color := rfl

/-- Two series are required, and which one is missing makes no difference. -/
theorem outcome_comparisonLayout [Written α] :
    Outcome .comparison (p.content .comparison) (comparisonLayout p t s) := by
  unfold comparisonLayout
  simp only
  split
  case h_1 left right hleft hright =>
    have hseries : p.seriesFor .comparison = [left, right] := by
      simp [Plan.seriesFor, hleft, hright]
    have htwo : (p.content .comparison).series.length = 2 := by
      simp [Plan.content, hseries]
    refine outcome_ite p t s ?_ fun _ => ?_
    · simp only [Content.Suffices, htwo, and_true]
      exact List.isEmpty_iff.trans not_not.symm
    exact {
      series := htwo
      categories := map_numbered (c := p.content .comparison) fun _ _ => rfl
      groups := fun j g hg => by
        rw [List.getElem?_map, List.getElem?_zipIdx, Option.map_map] at hg
        obtain ⟨label, -, rfl⟩ := Option.map_eq_some_iff.1 hg
        rw [Function.comp_apply, Nat.zero_add]
        exact ⟨compares_bar p t s _ (by rw [hseries]; rfl) j,
          compares_bar p t s _ (by rw [hseries]; rfl) j⟩ }
  case h_2 hmissing =>
    refine outcome_missing s (fun henough => ?_) _
    have htwo : (p.seriesFor .comparison).length = 2 :=
      (List.length_map Series.entries).symm.trans henough.2
    obtain ⟨hfirst, hsecond⟩ := isSome_of_length_eq_two htwo
    obtain ⟨left, hleft⟩ := Option.isSome_iff_exists.1 hfirst
    obtain ⟨right, hright⟩ := Option.isSome_iff_exists.1 hsecond
    exact hmissing left right hleft hright

/-! ## All kinds -/

/-- **What is laid out shows the content of its plan, or says what it lacks.** -/
theorem outcome_ofPlan [Written α] (hsign : ∀ d ∈ p.series, ∀ v ∈ d.amounts, ¬ v ≤ 0 ↔ 0 < v) :
    Outcome p.kind (p.content p.kind) (ofPlan p t s) := by
  unfold ofPlan
  cases p.kind with
  | bar => exact outcome_barLayout p t s
  | pie => exact outcome_pieLayout p t s hsign
  | line => exact outcome_lineLayout p t s
  | radar => exact outcome_radarLayout p t s
  | process => exact outcome_processLayout p t s
  | timeline => exact outcome_timelineLayout p t s
  | comparison => exact outcome_comparisonLayout p t s

end Shown

end Infochart.Layout
