import Infochart.Proofs.Layout.Exact
import Infochart.Proofs.Layout.Shown

/-!
# Bars side by side

The bars of a category stand side by side around its middle, as many as there are series, and the
thickness of a bar does not depend on that number. So a group of bars stays in the extent of its category
only if there is room for it (`groupFits_iff`). Groups that stay there are apart from each other and in
the plot; of groups that do not, the first bar leaves the plot and two neighbours overlap.

All of this is about one axis. A bar is an open interval there, since bars that touch do not overlap, and
the plot is a closed one. The frame of a layout has the starts of all bars as multiples of the spacing and
of the thickness, so what is proved about intervals comes down to `start`.
-/

namespace Infochart.Layout

open Chart (Orientation)

/-! ## Extents along the axis of categories -/

section Extents

variable {α : Type} [Scale α]

/-- The open interval that a bar takes along the axis of categories. -/
def Bar.span (b : Bar α) : Orientation → Set α
  | .vertical => {x | b.x < x ∧ x < b.x + b.width}
  | .horizontal => {y | b.y < y ∧ y < b.y + b.height}

/-- The closed interval that a plot takes along the axis of categories. -/
def Area.span (a : Area α) : Orientation → Set α
  | .vertical => {x | a.left ≤ x ∧ x ≤ a.right}
  | .horizontal => {y | a.top ≤ y ∧ y ≤ a.bottom}

/-- Whether no two bars overlap. -/
def BarChart.Apart (chart : BarChart α) : Prop :=
  chart.bars.Pairwise fun b b' => Disjoint (b.span chart.orientation) (b'.span chart.orientation)

/-- Whether all bars stay within the plot along the axis of categories. -/
def BarChart.Inside (chart : BarChart α) : Prop :=
  ∀ b ∈ chart.bars, b.span chart.orientation ⊆ chart.plot.span chart.orientation

end Extents

variable {α : Type} [Exact α]

namespace BarFrame

variable (f : BarFrame α)

/-- Where the plot starts along the axis of categories. -/
def origin (f : BarFrame α) : α :=
  match f.orientation with
  | .vertical => f.plot.left
  | .horizontal => f.plot.top

/-- How far the start of a bar is from that of the plot. -/
def start (f : BarFrame α) (series category : Nat) : α :=
  ((category : α) + 1 / 2) * f.spacing + ((series : α) - (f.seriesCount : α) / 2) * f.thickness

theorem center_eq (i j : Nat) : f.center i j = f.start i j + f.thickness / 2 := by
  unfold center start
  rw [half_eq]
  show ((j : α) + 1 / 2) * f.spacing + ((i : α) - (f.seriesCount : α) / 2 + 1 / 2) * f.thickness = _
  ring

theorem span_bar [Written α] (t : Theme α) (color : String) (i j : Nat) (value : α) :
    (f.bar t color i j value).span f.orientation =
      Set.Ioo (f.origin + f.start i j) (f.origin + f.start i j + f.thickness) := by
  have hstart (x : α) : x + f.center i j - f.thickness / 2 = x + f.start i j := by
    rw [center_eq]
    ring
  unfold bar origin Bar.span
  cases f.orientation with
  | vertical =>
    show Set.Ioo (f.plot.left + f.center i j - f.thickness / 2)
      (f.plot.left + f.center i j - f.thickness / 2 + f.thickness) = _
    rw [hstart]
  | horizontal =>
    show Set.Ioo (f.plot.top + f.center i j - f.thickness / 2)
      (f.plot.top + f.center i j - f.thickness / 2 + f.thickness) = _
    rw [hstart]

theorem span_plot : f.plot.span f.orientation =
    Set.Icc f.origin (f.origin + f.plot.along f.orientation) := by
  unfold origin Area.span Area.along
  cases f.orientation <;> rfl

/-! ## Groups -/

/-- Whether the bars of a category fit into its extent. -/
def GroupFits (f : BarFrame α) : Prop :=
  (f.seriesCount : α) * f.thickness ≤ f.spacing

variable {f}

/-- A group that fits stays in the extent of its category. -/
theorem GroupFits.bounds (hfit : f.GroupFits) (hthick : 0 < f.thickness) {i : Nat}
    (hi : i < f.seriesCount) (j : Nat) :
    (j : α) * f.spacing ≤ f.start i j ∧ f.start i j + f.thickness ≤ ((j : α) + 1) * f.spacing := by
  have hfirst : 0 ≤ (i : α) * f.thickness := by positivity
  have hlast : ((i : α) + 1) * f.thickness ≤ (f.seriesCount : α) * f.thickness := by
    refine mul_le_mul_of_nonneg_right ?_ hthick.le
    exact_mod_cast hi
  unfold GroupFits at hfit
  unfold start
  constructor
  · linarith
  · linarith

/-- Bars of groups that fit do not overlap. -/
theorem GroupFits.start_le (hfit : f.GroupFits) (hthick : 0 < f.thickness) {i i' j j' : Nat}
    (hi : i < f.seriesCount) (hi' : i' < f.seriesCount) (hlt : j < j' ∨ j = j' ∧ i < i') :
    f.start i j + f.thickness ≤ f.start i' j' := by
  rcases hlt with hlt | ⟨rfl, hlt⟩
  · have hnext : ((j : α) + 1) * f.spacing ≤ (j' : α) * f.spacing := by
      refine mul_le_mul_of_nonneg_right (by exact_mod_cast hlt) ?_
      exact (mul_nonneg (Nat.cast_nonneg _) hthick.le).trans hfit
    exact (hfit.bounds hthick hi j).2.trans (hnext.trans (hfit.bounds hthick hi' j').1)
  · have hnext : ((i : α) + 1) * f.thickness ≤ (i' : α) * f.thickness :=
      mul_le_mul_of_nonneg_right (by exact_mod_cast hlt) hthick.le
    unfold start
    linarith

theorem GroupFits.disjoint (hfit : f.GroupFits) (hthick : 0 < f.thickness) {q q' : Nat × Nat}
    (hq : q.1 < f.seriesCount) (hq' : q'.1 < f.seriesCount) (hne : q ≠ q') :
    Disjoint (Set.Ioo (f.origin + f.start q.1 q.2) (f.origin + f.start q.1 q.2 + f.thickness))
      (Set.Ioo (f.origin + f.start q'.1 q'.2) (f.origin + f.start q'.1 q'.2 + f.thickness)) := by
  obtain ⟨i, j⟩ := q
  obtain ⟨i', j'⟩ := q'
  have horder : (j < j' ∨ j = j' ∧ i < i') ∨ j' < j ∨ j' = j ∧ i' < i := by
    rw [Ne, Prod.mk.injEq] at hne
    omega
  rw [Set.Ioo_disjoint_Ioo]
  rcases horder with h | h
  · have hle := hfit.start_le hthick hq hq' h
    exact (min_le_left _ _).trans (le_trans (by linarith) (le_max_right _ _))
  · have hle := hfit.start_le hthick hq' hq h
    exact (min_le_right _ _).trans (le_trans (by linarith) (le_max_left _ _))

/-- A group that does not fit starts in front of the plot if it is the first one. -/
theorem groupFits_of_start (h : 0 ≤ f.start 0 0) : f.GroupFits := by
  unfold start at h
  unfold GroupFits
  rw [Nat.cast_zero] at h
  linarith

/-- Of two neighbouring groups that do not fit, some bar of the first reaches into the first bar of the
    second. -/
theorem exists_overlap (hthick : 0 < f.thickness) (hle : f.thickness ≤ f.spacing)
    (hfit : ¬ f.GroupFits) : ∃ i, 0 < i ∧ i < f.seriesCount ∧
      f.start i 0 ≤ f.start 0 1 ∧ f.start 0 1 < f.start i 0 + f.thickness := by
  -- The bar with as many in front of it as have room between the starts of the two groups.
  have hcount : f.seriesCount ≠ 0 := by
    intro hzero
    refine hfit ?_
    unfold GroupFits
    rw [hzero, Nat.cast_zero, zero_mul]
    exact (hthick.trans_le hle).le
  have hlast : f.spacing < (((f.seriesCount - 1 : Nat) : α) + 1) * f.thickness := by
    rw [← Nat.cast_add_one, Nat.sub_add_cancel (Nat.one_le_iff_ne_zero.2 hcount)]
    exact not_le.1 hfit
  have hexists : ∃ i : Nat, f.spacing < ((i : α) + 1) * f.thickness := ⟨_, hlast⟩
  obtain ⟨i, hi, hmin⟩ : ∃ i : Nat, f.spacing < ((i : α) + 1) * f.thickness ∧
      ∀ k < i, ((k : α) + 1) * f.thickness ≤ f.spacing := by
    classical
    exact ⟨Nat.find hexists, Nat.find_spec hexists, fun k hk => not_lt.1 (Nat.find_min hexists hk)⟩
  have hpos : 0 < i := by
    rw [Nat.pos_iff_ne_zero]
    rintro rfl
    rw [Nat.cast_zero, zero_add, one_mul] at hi
    exact absurd hle (not_le.2 hi)
  have hbelow : i < f.seriesCount := by
    by_contra hnot
    exact absurd (hmin (f.seriesCount - 1) (by omega)) (not_le.2 hlast)
  have hfits : (i : α) * f.thickness ≤ f.spacing := by
    have h := hmin (i - 1) (by omega)
    rwa [← Nat.cast_add_one, Nat.sub_add_cancel hpos] at h
  refine ⟨i, hpos, hbelow, ?_, ?_⟩
  · unfold start
    rw [Nat.cast_zero, Nat.cast_one]
    linarith
  · unfold start
    rw [Nat.cast_zero, Nat.cast_one]
    linarith

end BarFrame

/-! ## Charts -/

section Charts

variable [Written α]

/-- What a frame and a plan fix about a chart: it shows the content of the plan, each bar where the frame
    has it. -/
structure BarChart.Framed (chart : BarChart α) (f : BarFrame α) (p : Plan α) : Prop where
  orientation : chart.orientation = f.orientation
  plot : chart.plot = f.plot
  shows : chart.Shows (p.content .bar)
  spans : ∀ b ∈ chart.bars, b.span f.orientation =
    Set.Ioo (f.origin + f.start b.series b.category)
      (f.origin + f.start b.series b.category + f.thickness)

theorem exists_framed {p : Plan α} (hlabels : p.labels ≠ []) (hseries : p.datasets 5 ≠ [])
    (t : Theme α) (s : Settings α) :
    ∃ chart, (barLayout p t s).diagram = .bar chart ∧ chart.Framed (BarFrame.of p s) p := by
  obtain ⟨chart, hdiagram, horientation, hplot, hspans⟩ : ∃ chart,
      (barLayout p t s).diagram = .bar chart ∧ chart.orientation = (BarFrame.of p s).orientation ∧
      chart.plot = (BarFrame.of p s).plot ∧ ∀ b ∈ chart.bars, b.span (BarFrame.of p s).orientation =
        Set.Ioo ((BarFrame.of p s).origin + (BarFrame.of p s).start b.series b.category)
          ((BarFrame.of p s).origin + (BarFrame.of p s).start b.series b.category +
            (BarFrame.of p s).thickness) := by
    unfold barLayout
    simp only
    rw [if_neg (by simp [hlabels, hseries])]
    refine ⟨_, rfl, rfl, rfl, fun b hb => ?_⟩
    obtain ⟨i, j, d, e, -, -, rfl⟩ := mem_seriesBars t _ hb
    rw [series_bar, category_bar]
    exact BarFrame.span_bar _ t _ i j e.amount
  cases outcome_barLayout p t s with
  | drawn _ hshows =>
    rw [hdiagram] at hshows
    exact ⟨chart, hdiagram, horientation, hplot, hshows, hspans⟩
  | missing hlacking _ =>
    exact absurd ⟨hlabels, fun hnil => hseries (List.map_eq_nil_iff.1 hnil)⟩ hlacking

namespace BarChart.Framed

variable {chart : BarChart α} {p : Plan α} {s : Settings α} (h : chart.Framed (BarFrame.of p s) p)
include h

theorem place_lt {b : Bar α} (hb : b ∈ chart.bars) :
    b.series < (BarFrame.of p s).seriesCount ∧ b.category < p.labels.length := by
  obtain ⟨hcategory, hitem⟩ := (h.shows.places b.series b.category).1 (List.mem_map_of_mem hb)
  rw [Plan.item?_content, Option.isSome_bind, Option.any_eq_true] at hitem
  obtain ⟨d, hd, -⟩ := hitem
  exact ⟨(List.getElem?_eq_some_iff.1 hd).1, hcategory⟩

/-- The bar of an entry that has a label. -/
theorem exists_bar {i j : Nat} {d : Series α} (hd : (p.datasets 5)[i]? = some d)
    (hj : j < d.entries.length) (hlabel : j < p.labels.length) :
    ∃ b ∈ chart.bars, b.place = (i, j) ∧ b.span chart.orientation =
      Set.Ioo ((BarFrame.of p s).origin + (BarFrame.of p s).start i j)
        ((BarFrame.of p s).origin + (BarFrame.of p s).start i j + (BarFrame.of p s).thickness) := by
  have hitem : ((p.content .bar).item? i j).isSome := by
    rw [Plan.item?_content, show (p.seriesFor .bar)[i]? = some d from hd, Option.bind_some]
    simpa using hj
  obtain ⟨b, hb, hplace⟩ := List.mem_map.1 ((h.shows.places i j).2 ⟨hlabel, hitem⟩)
  refine ⟨b, hb, hplace, ?_⟩
  obtain ⟨rfl, rfl⟩ := Prod.mk.inj hplace
  rw [h.orientation, h.spans b hb]

variable (hthick : 0 < (BarFrame.of p s).thickness)
include hthick

theorem apart (hfit : (BarFrame.of p s).GroupFits) : chart.Apart := by
  unfold BarChart.Apart
  rw [h.orientation]
  refine (List.pairwise_map.1 h.shows.nodup).imp_of_mem fun {b b'} hb hb' hne => ?_
  rw [h.spans b hb, h.spans b' hb']
  exact hfit.disjoint hthick (h.place_lt hb).1 (h.place_lt hb').1 hne

theorem inside (hfit : (BarFrame.of p s).GroupFits) : chart.Inside := by
  intro b hb
  obtain ⟨hseries, hcategory⟩ := h.place_lt hb
  obtain ⟨hleast, hgreatest⟩ := hfit.bounds hthick hseries b.category
  have hspacing : 0 ≤ (BarFrame.of p s).spacing :=
    (mul_nonneg (Nat.cast_nonneg _) hthick.le).trans hfit
  have hcount : (p.labels.length : α) ≠ 0 := Nat.cast_ne_zero.2 (by omega)
  have halong : (BarFrame.of p s).plot.along (BarFrame.of p s).orientation =
      (p.labels.length : α) * (BarFrame.of p s).spacing :=
    (mul_div_cancel₀ _ hcount).symm
  have hfirst : 0 ≤ (b.category : α) * (BarFrame.of p s).spacing :=
    mul_nonneg (Nat.cast_nonneg _) hspacing
  have hlast : ((b.category : α) + 1) * (BarFrame.of p s).spacing ≤
      (p.labels.length : α) * (BarFrame.of p s).spacing :=
    mul_le_mul_of_nonneg_right (by exact_mod_cast hcategory) hspacing
  rw [h.orientation, h.plot, h.spans b hb, BarFrame.span_plot, halong]
  exact Set.Ioo_subset_Icc_self.trans (Set.Icc_subset_Icc (by linarith) (by linarith))

/-- If the first bar stays in the plot, groups fit. No other bar needs to be looked at: a group is
    centered on its category, so what sticks out of the category sticks out on both sides, and in front
    of the first category there is nothing left of the plot. -/
theorem groupFits_of_first {b : Bar α} (hb : b ∈ chart.bars) (hplace : b.place = (0, 0))
    (hwithin : b.span chart.orientation ⊆ chart.plot.span chart.orientation) :
    (BarFrame.of p s).GroupFits := by
  obtain ⟨hseries, hcategory⟩ := Prod.mk.inj hplace
  rw [h.orientation, h.plot, h.spans b hb, hseries, hcategory, BarFrame.span_plot] at hwithin
  -- The bar is an open interval and the plot a closed one, so their ends are compared as bounds.
  have hle := (isGLB_Ioo (lt_add_of_pos_right _ hthick)).2 fun x hx => (hwithin hx).1
  exact BarFrame.groupFits_of_start (by linarith)

/-- If no bars overlap, and all datasets have an entry for each of several labels, groups fit. -/
theorem groupFits_of_apart (hle : (BarFrame.of p s).thickness ≤ (BarFrame.of p s).spacing)
    (hfull : ∀ d ∈ p.datasets 5, p.labels.length ≤ d.entries.length) (hlabels : 1 < p.labels.length)
    (hapart : chart.Apart) : (BarFrame.of p s).GroupFits := by
  by_contra hfit
  obtain ⟨i, hpos, hi, hstart, hend⟩ := BarFrame.exists_overlap hthick hle hfit
  have hentries {i j : Nat} (hi : i < (p.datasets 5).length) (hj : j < p.labels.length) :=
    h.exists_bar (List.getElem?_eq_getElem hi) (hj.trans_le (hfull _ (List.getElem_mem hi))) hj
  obtain ⟨b, hb, hplace, hspan⟩ := hentries (j := 0) hi (Nat.zero_lt_of_lt hlabels)
  obtain ⟨b', hb', hplace', hspan'⟩ := hentries (j := 1) (hpos.trans hi) hlabels
  have hne : b ≠ b' := by
    rintro rfl
    rw [hplace] at hplace'
    cases hplace'
  have : Std.Symm fun b b' : Bar α => Disjoint (b.span chart.orientation) (b'.span chart.orientation) :=
    ⟨fun _ _ h => h.symm⟩
  have hdisjoint := List.Pairwise.forall hapart hb hb' hne
  rw [hspan, hspan', Set.Ioo_disjoint_Ioo, min_le_iff, le_max_iff, le_max_iff] at hdisjoint
  rcases hdisjoint with (hcross | hcross) | hcross | hcross <;> linarith

end BarChart.Framed

end Charts

/-! ## The standard settings -/

section Standard

variable {p : Plan α}

/-- Whether a plan has room for its bars: it has one series, or few enough of them for its labels. -/
def Plan.HasRoom {α : Type} (p : Plan α) : Prop :=
  (p.datasets 5).length = 1 ∨ (p.datasets 5).length * p.labels.length ≤
    match p.orientation with
    | .vertical => 13
    | .horizontal => 9

instance {α : Type} (p : Plan α) : Decidable p.HasRoom :=
  inferInstanceAs (Decidable (_ ∨ _))

/-- A single label leaves room for five datasets. -/
theorem one_lt_length_of_not_hasRoom {α : Type} {p : Plan α} (hlabels : p.labels ≠ [])
    (h : ¬ p.HasRoom) : 1 < p.labels.length := by
  have hpos := List.length_pos_of_ne_nil hlabels
  have hfive : (p.datasets 5).length ≤ 5 := List.length_take_le ..
  by_contra hnot
  have hone : p.labels.length = 1 := by omega
  refine h (.inr ?_)
  rw [hone, Nat.mul_one]
  cases p.orientation with
  | vertical => exact hfive.trans (by decide)
  | horizontal => exact hfive.trans (by decide)

/-- A group whose bars are the thinner of a cap and four fifths of their category fits if it is a single
    bar, or if it would fit with bars of the cap. -/
theorem mul_min_le_iff {n : Nat} (hn : 0 < n) {cap spacing : α} (hspacing : 0 < spacing) :
    (n : α) * min cap (spacing * (4 / 5)) ≤ spacing ↔ n = 1 ∨ (n : α) * cap ≤ spacing := by
  constructor
  · intro h
    by_contra hnot
    rw [not_or, not_le] at hnot
    have htwo : (2 : α) ≤ n := by
      have : 2 ≤ n := by omega
      exact_mod_cast this
    rcases min_choice cap (spacing * (4 / 5)) with hmin | hmin
    · rw [hmin] at h
      exact absurd h (not_le.2 hnot.2)
    · rw [hmin] at h
      nlinarith
  · rintro (rfl | h)
    · rw [Nat.cast_one, one_mul]
      exact (min_le_right _ _).trans (by linarith)
    · exact (mul_le_mul_of_nonneg_left (min_le_left _ _) (Nat.cast_nonneg n)).trans h

/-- The extent of the standard plot along the axis of categories. -/
def standardAlong : Orientation → Nat
  | .vertical => 680
  | .horizontal => 380

/-- What the thickness of a bar is capped at. -/
def standardCap : Orientation → Nat
  | .vertical => 50
  | .horizontal => 40

theorem spacing_standard (p : Plan α) : (BarFrame.of p Settings.standard).spacing =
    (standardAlong p.orientation : α) / p.labels.length := by
  have hplot : plotArea ((Settings.standard : Settings α).canvas .bar) Settings.standard.margin =
      ⟨60, 60, 680, 380⟩ := plotArea_standard
  unfold BarFrame.of
  simp only
  rw [hplot]
  cases p.orientation <;> rfl

theorem thickness_standard (p : Plan α) : (BarFrame.of p Settings.standard).thickness =
    min (standardCap p.orientation : α) ((BarFrame.of p Settings.standard).spacing * (4 / 5)) := by
  unfold BarFrame.of
  simp only
  rw [lesser_eq_min]
  cases p.orientation <;> rfl

variable (hlabels : p.labels ≠ [])
include hlabels

theorem spacing_standard_pos : 0 < (BarFrame.of p Settings.standard).spacing := by
  have hcount : (0 : α) < p.labels.length := Nat.cast_pos.2 (List.length_pos_of_ne_nil hlabels)
  have halong : (0 : α) < standardAlong p.orientation := by
    cases p.orientation <;> exact Nat.cast_pos.2 (by decide)
  rw [spacing_standard]
  exact div_pos halong hcount

theorem thickness_standard_pos : 0 < (BarFrame.of p Settings.standard).thickness := by
  have hspacing := spacing_standard_pos hlabels
  have hcap : (0 : α) < standardCap p.orientation := by
    cases p.orientation <;> exact Nat.cast_pos.2 (by decide)
  rw [thickness_standard]
  exact lt_min hcap (by linarith)

theorem thickness_le_spacing :
    (BarFrame.of p Settings.standard).thickness ≤ (BarFrame.of p Settings.standard).spacing := by
  have hspacing := spacing_standard_pos hlabels
  rw [thickness_standard]
  exact (min_le_right _ _).trans (by linarith)

/-- **There is room for the bars exactly if groups fit.** -/
theorem groupFits_iff (hseries : p.datasets 5 ≠ []) :
    (BarFrame.of p Settings.standard).GroupFits ↔ p.HasRoom := by
  have hcount : (0 : α) < p.labels.length := Nat.cast_pos.2 (List.length_pos_of_ne_nil hlabels)
  have hproduct : ((p.datasets 5).length : α) * (standardCap p.orientation : α) ≤
      (BarFrame.of p Settings.standard).spacing ↔
        (p.datasets 5).length * standardCap p.orientation * p.labels.length ≤
          standardAlong p.orientation := by
    rw [spacing_standard, le_div_iff₀ hcount]
    exact_mod_cast Iff.rfl
  have hroom : (p.datasets 5).length * standardCap p.orientation * p.labels.length ≤
      standardAlong p.orientation ↔ (p.datasets 5).length * p.labels.length ≤
        match p.orientation with
        | .vertical => 13
        | .horizontal => 9 := by
    rw [Nat.mul_right_comm]
    cases p.orientation <;> simp only [standardCap, standardAlong] <;> omega
  unfold BarFrame.GroupFits Plan.HasRoom
  rw [thickness_standard]
  refine (mul_min_le_iff (List.length_pos_of_ne_nil hseries) (spacing_standard_pos hlabels)).trans ?_
  exact or_congr_right (hproduct.trans hroom)

/-- The first bar of a plan without room leaves the plot. There is one if the first dataset has an
    entry. -/
theorem exists_first_outside [Written α] {chart : BarChart α}
    (h : chart.Framed (BarFrame.of p Settings.standard) p) (hroom : ¬ p.HasRoom) {d : Series α}
    (hd : (p.datasets 5)[0]? = some d) (hd' : d.entries ≠ []) :
    ∃ b ∈ chart.bars, b.place = (0, 0) ∧
      ¬ b.span chart.orientation ⊆ chart.plot.span chart.orientation := by
  have hseries : p.datasets 5 ≠ [] := by
    intro hnil
    rw [hnil] at hd
    cases hd
  obtain ⟨b, hb, hplace, -⟩ :=
    h.exists_bar hd (List.length_pos_of_ne_nil hd') (List.length_pos_of_ne_nil hlabels)
  refine ⟨b, hb, hplace, fun hwithin => ?_⟩
  have hfits := h.groupFits_of_first (thickness_standard_pos hlabels) hb hplace hwithin
  exact hroom ((groupFits_iff hlabels hseries).1 hfits)

/-- A plan without room has bars that overlap if its datasets have an entry for each label. -/
theorem not_apart [Written α] {chart : BarChart α} (h : chart.Framed (BarFrame.of p Settings.standard) p)
    (hroom : ¬ p.HasRoom) (hseries : p.datasets 5 ≠ [])
    (hfull : ∀ d ∈ p.datasets 5, p.labels.length ≤ d.entries.length) : ¬ chart.Apart := by
  intro hapart
  have hfits := h.groupFits_of_apart (thickness_standard_pos hlabels) (thickness_le_spacing hlabels)
    hfull (one_lt_length_of_not_hasRoom hlabels hroom) hapart
  exact hroom ((groupFits_iff hlabels hseries).1 hfits)

theorem exists_framed_standard [Written α] (hkind : p.kind = .bar) (hseries : p.datasets 5 ≠ [])
    (t : Theme α) : ∃ chart, (ofPlan p t Settings.standard).diagram = .bar chart ∧
      chart.Framed (BarFrame.of p Settings.standard) p := by
  unfold ofPlan
  rw [hkind]
  exact exists_framed hlabels hseries t Settings.standard

/-- **Bars stay in the plot and apart from each other exactly as long as there is room for them.** In a
    chart without room the first bar leaves the plot, and two bars overlap. The first bar is there if the
    first dataset has an entry, the two that overlap are there if the datasets have an entry for each
    label; hence the two conditions. -/
theorem bars_apart_inside [Written α] (hkind : p.kind = .bar) (hseries : p.datasets 5 ≠ [])
    (t : Theme α) :
    ∃ chart, (ofPlan p t Settings.standard).diagram = .bar chart ∧
      (p.HasRoom → chart.Apart ∧ chart.Inside) ∧
      (¬ p.HasRoom →
        (∀ d, (p.datasets 5)[0]? = some d → d.entries ≠ [] → ∃ b ∈ chart.bars, b.place = (0, 0) ∧
          ¬ b.span chart.orientation ⊆ chart.plot.span chart.orientation) ∧
        ((∀ d ∈ p.datasets 5, p.labels.length ≤ d.entries.length) → ¬ chart.Apart)) := by
  obtain ⟨chart, hdiagram, h⟩ := exists_framed_standard hlabels hkind hseries t
  refine ⟨chart, hdiagram, fun hroom => ?_, fun hroom => ⟨fun d hd hd' => ?_, fun hfull => ?_⟩⟩
  · have hthick := thickness_standard_pos hlabels
    have hfits := (groupFits_iff hlabels hseries).2 hroom
    exact ⟨h.apart hthick hfits, h.inside hthick hfits⟩
  · exact exists_first_outside hlabels h hroom hd hd'
  · exact not_apart hlabels h hroom hseries hfull

end Standard

/-! ## Two datasets -/

/-- Two datasets with an entry of one for each of some labels. -/
def Plan.twofold {α : Type} [Scale α] (labels : List String) : Plan α where
  kind := .bar
  title := ""
  orientation := .vertical
  colors := []
  labels := labels
  seriesLabels := []
  scaleLabels := []
  series := [⟨1, labels.map fun _ => ⟨1, "1"⟩⟩, ⟨2, labels.map fun _ => ⟨1, "1"⟩⟩]

/-- Two datasets have room for six labels. -/
theorem bars_apart_inside_of_six :
    let _ : Written ℝ := Written.silent ℝ
    ∃ chart, (ofPlan (Plan.twofold ["1", "2", "3", "4", "5", "6"] : Plan ℝ) Theme.classic
      Settings.standard).diagram = .bar chart ∧ chart.Apart ∧ chart.Inside := by
  let _ : Written ℝ := Written.silent ℝ
  obtain ⟨chart, hdiagram, happly, -⟩ :=
    bars_apart_inside (p := (Plan.twofold ["1", "2", "3", "4", "5", "6"] : Plan ℝ))
      (List.cons_ne_nil _ _) rfl (List.cons_ne_nil _ _) Theme.classic
  exact ⟨chart, hdiagram, happly (by decide)⟩

/-- Two datasets have no room for seven labels. -/
theorem not_apart_not_inside_of_seven :
    let _ : Written ℝ := Written.silent ℝ
    ∃ chart, (ofPlan (Plan.twofold ["1", "2", "3", "4", "5", "6", "7"] : Plan ℝ) Theme.classic
      Settings.standard).diagram = .bar chart ∧ ¬ chart.Apart ∧ ¬ chart.Inside := by
  let _ : Written ℝ := Written.silent ℝ
  have hlabels : (Plan.twofold ["1", "2", "3", "4", "5", "6", "7"] : Plan ℝ).labels ≠ [] :=
    List.cons_ne_nil _ _
  have hroom : ¬ (Plan.twofold ["1", "2", "3", "4", "5", "6", "7"] : Plan ℝ).HasRoom := by decide
  obtain ⟨chart, hdiagram, h⟩ := exists_framed_standard hlabels rfl (List.cons_ne_nil _ _) Theme.classic
  obtain ⟨b, hb, -, houtside⟩ := exists_first_outside hlabels h hroom rfl (List.cons_ne_nil _ _)
  refine ⟨chart, hdiagram, not_apart hlabels h hroom (List.cons_ne_nil _ _) ?_,
    fun hinside => houtside (hinside b hb)⟩
  intro d hd
  rcases List.mem_cons.1 hd with rfl | hd
  · exact (List.length_map _).ge
  · rw [List.mem_singleton.1 hd]
    exact (List.length_map _).ge

end Infochart.Layout
