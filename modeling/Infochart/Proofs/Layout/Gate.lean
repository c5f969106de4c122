import Infochart.Proofs.Layout.Described

/-!
# Which descriptions are drawn

Each kind of chart asks for its lists before it is drawn. Pies, radar charts and comparisons ask for
datasets with an entry; bars and lines take any dataset that is a list, and draw nothing but axes where
all of them are empty. That is the only case in which a layout is neither a box that says what is lacking
nor a diagram with something in it (`gated_iff`).
-/

namespace Infochart.Layout

open Chart (Kind Spec)
open Property (Known Map)

/-! ## Marks -/

section Marks

variable {α : Type}

/-- The number of bars, slices, points, boxes, events or groups of a diagram. -/
def Diagram.marks : Diagram α → Nat
  | .bar chart => chart.bars.length
  | .pie chart => chart.slices.length
  | .line chart => (chart.series.map (·.points.length)).sum
  | .radar chart => (chart.series.map (·.points.length)).sum
  | .process d => d.steps.length
  | .timeline l => l.events.length
  | .comparison chart => chart.groups.length
  | .placeholder _ => 0

/-- Whether a content has labels, and a series that is not empty. -/
def Content.HasEntry (c : Content α) : Prop :=
  c.labels ≠ [] ∧ ∃ es ∈ c.series, es ≠ []

theorem length_pos_of_map_numbered {β : Type} {f : β → String} {bs : List β} {c : Content α}
    {word : String} (h : bs.map f = c.numbered word) (hlabels : c.labels ≠ []) : 0 < bs.length := by
  have hlength : bs.length = c.labels.length := by
    simpa [Content.numbered] using congrArg List.length h
  rw [hlength]
  exact List.length_pos_of_ne_nil hlabels

/-- What is counted in each of the series that show some entries. -/
theorem map_eq_of_forall₂ {β : Type} {R : β → List (Entry α) × Nat → Prop} {f : β → Nat}
    {g : List (Entry α) → Nat} (hfg : ∀ l es i, R l (es, i) → f l = g es) {ls : List β}
    {series : List (List (Entry α))} (h : List.Forall₂ R ls series.zipIdx) :
    ls.map f = series.map g := by
  have hmaps : ls.map f = series.zipIdx.map (g ∘ Prod.fst) := by
    rw [← List.forall₂_eq_eq_eq, List.forall₂_map_left_iff, List.forall₂_map_right_iff]
    exact h.imp fun l (es, i) hl => hfg l es i hl
  rw [hmaps, ← List.map_map, List.zipIdx_map_fst]

variable {c : Content α}

theorem BarChart.Shows.marks_pos_iff [Written α] {chart : BarChart α} (h : chart.Shows c) :
    0 < chart.bars.length ↔ c.HasEntry := by
  constructor
  · intro hpos
    obtain ⟨b, hb⟩ := List.exists_mem_of_length_pos hpos
    obtain ⟨hj, he⟩ := (h.places b.series b.category).1 (List.mem_map_of_mem hb)
    obtain ⟨e, he⟩ := Option.isSome_iff_exists.1 he
    obtain ⟨es, hes, he⟩ := Option.bind_eq_some_iff.1 he
    exact ⟨List.ne_nil_of_length_pos (Nat.zero_lt_of_lt hj), es, List.mem_of_getElem? hes,
      List.ne_nil_of_mem (List.mem_of_getElem? he)⟩
  · rintro ⟨hlabels, es, hes, hne⟩
    obtain ⟨i, hi⟩ := List.mem_iff_getElem?.1 hes
    have hentry : (c.item? i 0).isSome := by
      unfold Content.item?
      rw [hi, Option.bind_some, isSome_getElem?]
      exact List.length_pos_of_ne_nil hne
    have hplace := (h.places i 0).2 ⟨List.length_pos_of_ne_nil hlabels, hentry⟩
    obtain ⟨b, hb, -⟩ := List.mem_map.1 hplace
    exact List.length_pos_of_mem hb

theorem LineChart.Shows.marks_pos_iff {chart : LineChart α} (h : chart.Shows c) :
    0 < (chart.series.map (·.points.length)).sum ↔ c.HasEntry := by
  have hlengths : chart.series.map (·.points.length) =
      c.series.map fun es => min c.labels.length es.length := by
    refine map_eq_of_forall₂ (fun l es i hl => ?_) h.series
    simpa using congrArg List.length hl.entries
  rw [hlengths, List.sum_pos_iff_exists_pos_nat]
  simp only [List.mem_map, exists_exists_and_eq_and, Nat.lt_min, List.length_pos_iff]
  exact ⟨fun ⟨es, hes, hlabels, hne⟩ => ⟨hlabels, es, hes, hne⟩,
    fun ⟨hlabels, es, hes, hne⟩ => ⟨es, hes, hlabels, hne⟩⟩

variable [Scale α]

theorem RadarChart.Shows.marks_pos {chart : RadarChart α} (h : chart.Shows c)
    (hlabels : c.labels ≠ []) (hseries : c.series ≠ []) :
    0 < (chart.series.map (·.points.length)).sum := by
  have hlengths : chart.series.map (·.points.length) = c.series.map fun _ => c.labels.length := by
    refine map_eq_of_forall₂ (fun l es i hl => ?_) h.series
    simpa using congrArg List.length hl.entries
  obtain ⟨es, hes⟩ := List.exists_mem_of_ne_nil _ hseries
  rw [hlengths, List.sum_pos_iff_exists_pos_nat]
  exact ⟨_, List.mem_map_of_mem hes, List.length_pos_of_ne_nil hlabels⟩

/-- A sum that is not zero has a positive part. -/
theorem PieChart.Shows.marks_pos {chart : PieChart α} (h : chart.Shows c) (hzero : (0 : α) ≤ 0)
    (henough : c.Suffices .pie) : 0 < chart.slices.length := by
  obtain ⟨es, hseries, hslices⟩ := h.slices
  obtain ⟨-, es', hes, hsum, -⟩ := henough
  rw [hseries, List.mem_singleton] at hes
  subst es'
  have hlength : chart.slices.length = (es.zipIdx.filter (0 < ·.1.amount)).length := by
    simpa using congrArg List.length hslices
  have hpositive : (es.map Entry.amount).filter (0 < ·) =
      (es.zipIdx.filter (0 < ·.1.amount)).map (·.1.amount) := by
    conv_lhs => rw [← List.zipIdx_map_fst 0 es, List.map_map, List.filter_map]
    rfl
  rw [hlength]
  by_contra hnone
  rw [List.length_pos_iff, not_not] at hnone
  simp only [hpositive, hnone] at hsum
  exact hsum hzero

/-- **What shows a content that suffices has something in it**, but bars and lines only if a series has
    an entry. -/
theorem Diagram.Shows.marks_pos_iff [Written α] {d : Diagram α} {kind : Kind} (h : d.Shows kind c)
    (hzero : (0 : α) ≤ 0) (henough : c.Suffices kind) :
    0 < d.marks ↔ (kind = .bar ∨ kind = .line → c.HasEntry) := by
  unfold Diagram.Shows at h
  split at h
  case h_1 chart => simpa [Diagram.marks] using h.marks_pos_iff
  case h_2 chart => simpa [Diagram.marks] using h.marks_pos hzero henough
  case h_3 chart => simpa [Diagram.marks] using h.marks_pos_iff
  case h_4 chart => simpa [Diagram.marks] using h.marks_pos henough.1 henough.2
  case h_5 d => simpa [Diagram.marks] using length_pos_of_map_numbered h.titles henough
  case h_6 l => simpa [Diagram.marks] using length_pos_of_map_numbered h.dates henough
  case h_7 chart => simpa [Diagram.marks] using length_pos_of_map_numbered h.categories henough.1
  case h_8 => exact h.elim

end Marks

/-! ## Data -/

section Data

/-- Whether a property of a map is a list with an item. -/
def HasItems (m : Map) (k : Known) : Prop :=
  ∃ items, m.list? k = some items ∧ items ≠ []

/-- Whether a map has what a kind of chart draws: labels, and items in the datasets that it requires.
    Bars and lines require one of five. -/
def HasData (m : Map) : Kind → Prop
  | .bar | .line => HasItems m .labels ∧ ∃ i ∈ List.range' 1 5, HasItems m (.dataset i)
  | .pie | .radar => HasItems m .labels ∧ HasItems m (.dataset 1)
  | .comparison => HasItems m .labels ∧ HasItems m (.dataset 1) ∧ HasItems m (.dataset 2)
  | .process | .timeline => HasItems m .labels

/-- Labels, and datasets for bars or lines that are lists, but all of them empty ones. -/
structure OnlyEmpty (m : Map) (kind : Kind) : Prop where
  kind : kind = .bar ∨ kind = .line
  labels : HasItems m .labels
  listed : ∃ i ∈ List.range' 1 5, m.list? (.dataset i) = some []
  empty : ∀ i ∈ List.range' 1 5, ¬ HasItems m (.dataset i)

/-- Whether a layout is a box that says what is lacking where the data of its kind are, and has something
    in it if it is no box. -/
structure Gated (m : Map) (kind : Kind) (l : Layout Float) : Prop where
  boxed : ¬ HasData m kind → LacksData kind l
  marked : l.isPlaceholder = false → 0 < l.diagram.marks

variable {m : Map} {kind : Kind} (defaultScheme : String)

theorem labels_ne_nil_iff (kind : Kind) :
    (Content.ofMap defaultScheme kind m).labels ≠ [] ↔ HasItems m .labels := by
  unfold Content.ofMap Chart.listTexts HasItems
  cases m.list? .labels <;> simp

theorem entries?_ne_nil_iff {i : Nat} :
    (∃ es, entries? m i = some es ∧ es ≠ []) ↔ HasItems m (.dataset i) := by
  unfold entries? HasItems
  cases m.list? (.dataset i) <;> simp

theorem isSome_filter_entries?_iff {i : Nat} :
    ((entries? m i).filter (!·.isEmpty)).isSome ↔ HasItems m (.dataset i) := by
  rw [← entries?_ne_nil_iff, Option.isSome_iff_exists]
  simp only [Option.filter_eq_some_iff, Bool.not_eq_true', List.isEmpty_eq_false_iff]

/-- A content that suffices has data, or it is one of bars or lines with nothing but empty lists. -/
theorem hasData_or_onlyEmpty (h : (Content.ofMap defaultScheme kind m).Suffices kind) :
    HasData m kind ∨ OnlyEmpty m kind := by
  have hlabels := (labels_ne_nil_iff (m := m) defaultScheme kind).1
  have hfilled (i : Nat) := (isSome_filter_entries?_iff (m := m) (i := i)).1
  cases kind with
  | bar | line =>
    by_cases hitems : ∃ i ∈ List.range' 1 5, HasItems m (.dataset i)
    · exact .inl ⟨hlabels h.1, hitems⟩
    obtain ⟨es, hes⟩ := List.exists_mem_of_ne_nil _ h.2
    obtain ⟨i, hi, hlist⟩ := List.mem_filterMap.1 hes
    obtain ⟨items, hlist, -⟩ := Option.map_eq_some_iff.1 hlist
    have hempty : items = [] := by
      by_contra hne
      exact hitems ⟨i, hi, items, hlist, hne⟩
    subst hempty
    exact .inr ⟨by decide, hlabels h.1, ⟨i, hi, hlist⟩, fun j hj hj' => hitems ⟨j, hj, hj'⟩⟩
  | pie =>
    obtain ⟨hl, es, hes, -⟩ := h
    exact .inl ⟨hlabels hl, hfilled 1 (Option.isSome_of_mem (Option.mem_toList.1 hes))⟩
  | radar =>
    refine .inl ⟨hlabels h.1, hfilled 1 ?_⟩
    by_contra hnone
    have hseries : seriesOf .radar (entries? m) ≠ [] := h.2
    simp [seriesOf, Option.not_isSome_iff_eq_none.1 hnone] at hseries
  | comparison =>
    obtain ⟨hfirst, hsecond⟩ := isSome_of_length_eq_two h.2
    exact .inl ⟨hlabels h.1, hfilled 1 hfirst, hfilled 2 hsecond⟩
  | process | timeline => exact .inl (hlabels h)

theorem hasEntry_ofMap_iff (hkind : kind = .bar ∨ kind = .line) :
    (Content.ofMap defaultScheme kind m).HasEntry ↔ HasData m kind := by
  have hseries : (∃ es ∈ (List.range' 1 5).filterMap (entries? m), es ≠ []) ↔
      ∃ i ∈ List.range' 1 5, HasItems m (.dataset i) := by
    simp only [List.mem_filterMap, ← entries?_ne_nil_iff]
    exact ⟨fun ⟨es, ⟨i, hi, hes⟩, hne⟩ => ⟨i, hi, es, hes, hne⟩,
      fun ⟨i, hi, es, hes, hne⟩ => ⟨es, ⟨i, hi, hes⟩, hne⟩⟩
  rcases hkind with rfl | rfl
  · exact and_congr (labels_ne_nil_iff defaultScheme _) hseries
  · exact and_congr (labels_ne_nil_iff defaultScheme _) hseries

namespace OnlyEmpty

theorem not_hasData (h : OnlyEmpty m kind) : ¬ HasData m kind := by
  obtain ⟨rfl | rfl, -, -, hempty⟩ := h <;> exact fun ⟨_, i, hi, hitems⟩ => hempty i hi hitems

/-- Empty lists are enough for bars and lines. -/
theorem enough (h : OnlyEmpty m kind) : (Content.ofMap defaultScheme kind m).Suffices kind := by
  obtain ⟨i, hi, hlist⟩ := h.listed
  have hseries : (List.range' 1 5).filterMap (entries? m) ≠ [] := by
    refine List.ne_nil_of_mem (a := []) (List.mem_filterMap.2 ⟨i, hi, ?_⟩)
    unfold entries?
    rw [hlist]
    rfl
  have hlabels := (labels_ne_nil_iff defaultScheme kind).2 h.labels
  rcases h.kind with rfl | rfl <;> exact ⟨hlabels, hseries⟩

end OnlyEmpty

end Data

/-! ## The gate -/

section Gate

variable {m : Map} {kind : Kind}

/-- A diagram that shows something is no box. -/
theorem isPlaceholder_of_shows {l : Layout Float} {c : Content Float} (h : l.diagram.Shows kind c) :
    l.isPlaceholder = false := by
  unfold Layout.isPlaceholder
  split
  case h_1 box hbox =>
    rw [hbox] at h
    cases kind <;> exact h.elim
  case h_2 => rfl

/-- **The gate stands but for empty lists.** A map of some kind of chart without the data of that kind is
    laid out as a box that says so, and what is no box has something in it, if and only if the map is not
    one of bars or lines with nothing but empty lists. Such a map is laid out as axes without any bar or
    point. -/
theorem gated_iff (hkind : Spec.kindOf m = some kind) (t : Theme Float) (s : Settings Float) :
    (Gated m kind (ofMap m t s) ↔ ¬ OnlyEmpty m kind) ∧
      (OnlyEmpty m kind → (ofMap m t s).isPlaceholder = false ∧ (ofMap m t s).diagram.marks = 0) := by
  have hlayout : ofMap m t s = ofSpec (Spec.withKind s.defaultColorScheme kind m) t s := by
    unfold ofMap Spec.ofMap?
    rw [hkind]
    rfl
  rw [hlayout]
  cases outcome_ofSpec s.defaultColorScheme kind m t s with
  | missing hlacking hbox =>
    have hnot : ¬ OnlyEmpty m kind := fun h => hlacking (h.enough _)
    refine ⟨iff_of_true ⟨fun _ => hbox, fun hdrawn => ?_⟩ hnot, fun h => absurd h hnot⟩
    rw [not_isPlaceholder kind hbox] at hdrawn
    cases hdrawn
  | drawn henough hshows =>
    have hdrawn := isPlaceholder_of_shows hshows
    have hdata := hasData_or_onlyEmpty _ henough
    have hmarks : 0 < (ofSpec (Spec.withKind s.defaultColorScheme kind m) t s).diagram.marks ↔
        ¬ OnlyEmpty m kind := by
      rw [hshows.marks_pos_iff (by decide +kernel) henough]
      constructor
      · intro hentry hempty
        exact hempty.not_hasData ((hasEntry_ofMap_iff _ hempty.kind).1 (hentry hempty.kind))
      · intro hnot hlines
        exact (hasEntry_ofMap_iff _ hlines).2 (hdata.resolve_right hnot)
    refine ⟨⟨fun h => hmarks.1 (h.marked hdrawn), fun hnot => ?_⟩, fun h => ⟨hdrawn, ?_⟩⟩
    · exact ⟨fun hlack => absurd (hdata.resolve_right hnot) hlack, fun _ => hmarks.2 hnot⟩
    · exact Nat.eq_zero_of_not_pos fun hpos => hmarks.1 hpos h

/-- A bar chart with an empty dataset beside one that is not. -/
theorem gated_of_one_filled :
    let m := Map.empty.insertAll
      [(Known.visualizationType.id, .text "bar"), (Known.labels.id, .list [.text "a"]),
       ((Known.dataset 1).id, .list []), ((Known.dataset 3).id, .list [.number 3])]
    Spec.kindOf m = some .bar ∧ Gated m .bar (ofMap m Theme.classic Settings.standard) := by
  intro m
  have hkind : Spec.kindOf m = some .bar := rfl
  refine ⟨hkind, (gated_iff hkind Theme.classic Settings.standard).1.2 fun h => ?_⟩
  exact h.empty 3 (by decide) ⟨[.number 3], rfl, List.cons_ne_nil _ _⟩

/-- A bar chart with nothing but an empty dataset has axes and no bar. -/
theorem not_gated : ¬ ∀ (m : Map) (kind : Kind), Spec.kindOf m = some kind →
    ∀ (t : Theme Float) (s : Settings Float), Gated m kind (ofMap m t s) := by
  intro h
  let m := Map.empty.insertAll
    [(Known.visualizationType.id, .text "Bar Chart"), (Known.labels.id, .list [.text "a"]),
     ((Known.dataset 1).id, .list [])]
  have hgated := h m .bar rfl Theme.classic Settings.standard
  have hdrawn : (ofMap m Theme.classic Settings.standard).isPlaceholder = false := rfl
  have hmarks : (ofMap m Theme.classic Settings.standard).diagram.marks = 0 := rfl
  exact absurd (hgated.marked hdrawn) (by rw [hmarks]; exact Nat.lt_irrefl 0)

end Gate

end Infochart.Layout
