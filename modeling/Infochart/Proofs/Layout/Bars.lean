import Infochart.Proofs.Layout.Measures

/-!
# Bars without undefined numbers

Bar charts and comparison charts of moderate plans are defined, whatever their amounts: counts and
measures are carried through by their bounds, and amounts enter only as themselves and as shares of the
greatest one.

The bounds are far from tight, and need not be. A coordinate is put together from measures of 64 bits by
a few sums and products, each of which adds the exponents or adds one to them; so all coordinates stay
below `2 ^ 500`, where `defined_label` asks for them, and numbers go up to `2 ^ 1024`. What has to be seen
is that no amount gets into a coordinate but as a share. That is `within_greater_quotient`, and it needs
a greatest amount that is positive: amounts that are all zero or less are measured by one
(`exists_scaleMax`).
-/

namespace Infochart.Layout

open Binary64 (value?)

variable {α : Type} [Scale α] [Binary64 α] {p : Plan α} {t : Theme α} {s : Settings α}

/-! ## The amounts of a plan -/

section Amounts

omit [Scale α] [Binary64 α] in
theorem mem_series_of_mem_datasets {d : Series α} {limit : Nat} (h : d ∈ p.datasets limit) :
    d ∈ p.series :=
  (List.mem_filter.1 (List.mem_of_mem_take h)).1

omit [Scale α] [Binary64 α] in
theorem mem_series_of_filled? {d : Series α} {i : Nat} (h : p.filled? i = some d) : d ∈ p.series := by
  unfold Plan.filled? Plan.dataset? at h
  exact List.mem_of_find?_eq_some (Option.filter_eq_some_iff.1 h).1

omit [Binary64 α] in
theorem Plan.Moderate.allFinite (hp : p.Moderate) {ds : List (Series α)}
    (h : ∀ d ∈ ds, d ∈ p.series) : AllFinite (ds.flatMap Series.amounts) := by
  intro x hx
  obtain ⟨d, hd, hx⟩ := List.mem_flatMap.1 hx
  exact hp.amounts d (h d hd) x hx

omit [Scale α] [Binary64 α] in
theorem length_datasets_le (limit : Nat) : (p.datasets limit).length ≤ limit :=
  List.length_take_le _ _

/-- What an entry that may be missing counts as. A series may have fewer entries than there are labels;
    those counted as zero are not above the greatest amount, since that is not negative. -/
theorem exists_entry_value {d : Series α} {m : ℚ} (hd : AllFinite d.amounts) (hm : 0 ≤ m)
    (hle : ∀ y ∈ d.amounts, ∀ w, value? y = some w → w ≤ m) (i : Nat) :
    ∃ v, value? ((d.entries[i]?.map Entry.amount).getD 0) = some v ∧ v ≤ m := by
  cases he : d.entries[i]? with
  | none => exact ⟨0, value?_zero, hm⟩
  | some e =>
    have hmem : e.amount ∈ d.amounts := List.mem_map_of_mem (List.mem_of_getElem? he)
    obtain ⟨v, hv⟩ := (Binary64.isFinite_iff e.amount).1 (hd e.amount hmem)
    exact ⟨v, hv, hle e.amount hmem v hv⟩

end Amounts

/-! ## Bar charts -/

/-- The measures of a bar chart. All but the greatest amount are of moderate size. The exponents are those
    that come out: a thickness may be a multiple of the spacing, since nothing keeps the ratio of a
    settings file below one. -/
structure BarFrame.Bounded (f : BarFrame α) : Prop where
  plot : f.plot.Bounded
  spacing : Within 129 f.spacing
  thickness : Within 193 f.thickness
  seriesCount : f.seriesCount ≤ 2 ^ 64

/-- Which side of the plot is which depends on the orientation, but both have the same bound. So charts
    need no case split where they measure along or across. -/
theorem Area.Bounded.along {a : Area α} (h : a.Bounded) (o : Chart.Orientation) :
    Within 129 (a.along o) := by
  cases o with
  | vertical => exact h.width
  | horizontal => exact h.height

theorem Area.Bounded.across {a : Area α} (h : a.Bounded) (o : Chart.Orientation) :
    Within 129 (a.across o) := by
  cases o with
  | vertical => exact h.height
  | horizontal => exact h.width

theorem BarSettings.Moderate.cap {b : BarSettings α} (h : b.Moderate) (o : Chart.Orientation) :
    Within 64 (b.cap o) := by
  cases o with
  | vertical => exact h.maxWidth
  | horizontal => exact h.maxThickness

theorem bounded_barFrame (hp : p.Moderate) (hs : s.Moderate) (hlabels : 0 < p.labels.length) :
    (BarFrame.of p s).Bounded := by
  have hplot := bounded_plotArea (hs.canvas .bar) hs.margin
  have hspacing := (hplot.along p.orientation).div_natCast hlabels hp.labels
  exact
    { plot := hplot
      spacing := hspacing
      thickness := ((hs.bar.cap p.orientation).mono).lesser (hspacing.mul hs.bar.fillRatio)
      seriesCount := (length_datasets_le 5).trans (by decide) }

section Bars

variable {f : BarFrame α} (hf : f.Bounded)
include hf

/-- How far the middle of a bar is from the start of the plot. It may be in front of it, with many series,
    so the bound is one of magnitude only. -/
theorem within_center {series category : Nat} (hi : series ≤ 2 ^ 64) (hj : category ≤ 2 ^ 64) :
    Within 260 (f.center series category) :=
  (((within_natCast hj).add within_half).mul hf.spacing).add
    ((((within_natCast hi).sub (within_natCast hf.seriesCount).div_natCast).add within_half).mul
      hf.thickness)

variable [Written α]

/-- **A bar is defined for every amount that is not above the greatest.** The amount is shown as itself,
    and the length of the bar is a share of the plot. The label stands at the free end, so it is placed by
    the same two numbers as the bar. -/
theorem defined_bar (ht : t.Moderate) {value : α} {v m : ℚ} (hv : value? value = some v)
    (hm : value? f.maxValue = some m) (hpos : 0 < m) (hle : v ≤ m) {series category : Nat}
    (hi : series ≤ 2 ^ 64) (hj : category ≤ 2 ^ 64) (color : String) :
    (f.bar t color series category value).Defined := by
  have hlength : Within 129 (f.length value) :=
    ((within_greater_quotient hv hm hle hpos).mul (hf.plot.across f.orientation)).mono
  have hcenter := within_center hf hi hj
  have hhalf := hf.thickness.div_natCast (n := 2)
  have hvalue := isFinite_of_value hv
  have hsize := ht.fontSize.mono (k := 500)
  unfold BarFrame.bar
  simp only
  split
  · have hx := (hf.plot.left.add hcenter).sub hhalf
    have hy := hf.plot.bottom.sub hlength
    exact
      { x := hx.isFinite
        y := hy.isFinite
        width := hf.thickness.isFinite
        height := hlength.isFinite
        value := hvalue
        label := defined_label (hx.add hhalf).mono (hy.sub within_literal).mono hsize }
  · have hx := (hf.plot.left.add hlength).add (within_literal (n := 5))
    have hy := (hf.plot.top.add hcenter).sub hhalf
    exact
      { x := hf.plot.left.isFinite
        y := hy.isFinite
        width := hlength.isFinite
        height := hf.thickness.isFinite
        value := hvalue
        label := defined_label hx.mono (hy.add hhalf).mono hsize }

omit [Written α] in
theorem defined_categoryLabel (ht : t.Moderate) (text : String) {i : Nat} (hi : i ≤ 2 ^ 64) :
    (f.categoryLabel t text i).Defined := by
  have hposition := ((within_natCast hi).add within_half).mul hf.spacing
  have hsize := ht.fontSize.mono (k := 500)
  unfold BarFrame.categoryLabel
  simp only
  split
  · exact defined_label (hf.plot.left.add hposition).mono
      (hf.plot.bottom.add within_literal).mono hsize
  · exact defined_label (hf.plot.left.sub within_literal).mono
      (hf.plot.top.add hposition).mono hsize

omit [Written α] in
theorem within_legendPlace (hs : s.Moderate) {i : Nat} (hi : i ≤ 2 ^ 64) :
    Within 400 (f.legendPlace s.bar i).1 ∧ Within 400 (f.legendPlace s.bar i).2 := by
  have hstep := (within_natCast hi).mul hs.bar.legendSpacing
  unfold BarFrame.legendPlace
  split
  · exact ⟨(hf.plot.right.sub within_literal).mono, (hf.plot.top.add hstep).mono⟩
  · exact ⟨((hf.plot.left.add within_literal).add ((within_natCast hi).mul within_literal)).mono,
      (hf.plot.top.sub within_literal).mono⟩

end Bars

/-- An axis that starts at zero ends at the greatest amount itself: what is a number already is not
    rounded again when zero is taken off and put back. Axes that start elsewhere have no such law, which
    is why line charts may be undefined. -/
theorem isDefined_from_zero {x : α} {m : ℚ} (hx : value? x = some m) : IsDefined (0 + (x - 0)) := by
  obtain ⟨hkept, hrange⟩ := Binary64.kept hx
  have hsub : value? (x - 0) = some m := by
    have h := Binary64.sub hx value?_zero
    rw [sub_zero] at h
    rw [h.value (by rwa [hkept]), hkept]
  have hadd := Binary64.add value?_zero hsub
  rw [zero_add] at hadd
  exact isFinite_of_value (hadd.value (by rwa [hkept]))

/-- **Bar charts of moderate plans are defined.** -/
theorem defined_barLayout [Written α] (hp : p.Moderate) (ht : t.Moderate) (hs : s.Moderate) :
    (barLayout p t s).Defined := by
  unfold barLayout
  simp only
  split
  · exact defined_insufficient hs _ _
  rename_i hfull
  have hlabels : 0 < p.labels.length := by
    simp only [Bool.or_eq_true, List.isEmpty_iff, not_or] at hfull
    exact List.length_pos_iff.2 hfull.1
  have hf := bounded_barFrame hp hs hlabels
  have hamounts := hp.allFinite fun d (hd : d ∈ p.datasets 5) => mem_series_of_mem_datasets hd
  obtain ⟨m, hm, hpos, hle⟩ := exists_scaleMax hamounts
  have hcount : (p.datasets 5).length ≤ 2 ^ 64 := (length_datasets_le 5).trans (by decide)
  refine defined_chartLayout ht hs (d := .bar _)
    { plot := hf.plot.defined
      maxValue := isFinite_of_value hm
      bars := fun b hb => ?_
      categories := forall_mem_indexed fun text _ i hi =>
        defined_categoryLabel hf ht text (hi.le.trans hp.labels)
      ticks := defined_valueTicks ht hf.plot _ value?_zero hm hpos.le (isDefined_from_zero hm)
        hs.tickCount
      legend := defined_rows fun i hi => ?_ }
  · obtain ⟨⟨d, i⟩, hd, hb⟩ := List.mem_flatMap.1 hb
    have hi := List.snd_lt_of_mem_zipIdx hd
    have hd' := List.fst_mem_of_mem_zipIdx hd
    refine forall_mem_indexed (fun value hvalue j hj => ?_) b hb
    have hmem : value ∈ (p.datasets 5).flatMap Series.amounts :=
      List.mem_flatMap.2 ⟨d, hd', List.mem_of_mem_take hvalue⟩
    obtain ⟨v, hv⟩ := (Binary64.isFinite_iff value).1 (hamounts value hmem)
    have hj' : j ≤ 2 ^ 64 := by
      rw [List.length_take] at hj
      exact (hj.le.trans (min_le_left _ _)).trans hp.labels
    exact defined_bar hf ht hv hm hpos (hle value hmem v hv) (by omega) hj' _
  · obtain ⟨hx, hy⟩ := within_legendPlace hf hs (i := i) (by omega)
    exact defined_legendItem ht _ _ hx hy hs.bar.legendSwatch hs.bar.legendSwatch

/-! ## Comparison charts -/

/-- The measures of a comparison chart. All but the greatest amount are of moderate size. The groups are
    centered whether they fit or not, so the first may be far above the plot; how far depends on the
    number of labels, and that is what the bound of its place comes from. -/
structure ComparisonFrame.Bounded (f : ComparisonFrame α) : Prop where
  plot : f.plot.Bounded
  centerX : Within 130 f.centerX
  halfExtent : Within 130 f.halfExtent
  groupHeight : Within 129 f.groupHeight
  startY : Within 200 f.startY

theorem bounded_comparisonFrame (hs : s.Moderate) (left right : Series α) {count : Nat}
    (hcount : count ≤ 2 ^ 64) : (ComparisonFrame.of left right count s).Bounded := by
  have hplot := bounded_plotArea (hs.canvas .comparison) hs.margin
  have hheight := ((within_literal (n := 2)).mul hs.comparison.barHeight).add hs.comparison.barGap
  have hn := within_natCast (α := α) hcount
  have htotal := (hn.mul hheight).add
    ((hn.sub (within_literal (n := 1))).mul hs.comparison.groupGap)
  exact
    { plot := hplot
      centerX := hplot.left.add hplot.width.div_natCast
      halfExtent := ((hplot.width.div_natCast).sub
        hs.comparison.centerGap).greater (within_literal).mono
      groupHeight := hheight
      startY := ((hplot.top.add hplot.height.div_natCast).sub htotal.div_natCast).mono }

section Comparison

variable {f : ComparisonFrame α} (hf : f.Bounded) (ht : t.Moderate) (hs : s.Moderate)
include hf hs

theorem within_groupY {i : Nat} (hi : i ≤ 2 ^ 64) : Within 201 (f.groupY s.comparison i) :=
  (hf.startY.add ((within_natCast hi).mul (hf.groupHeight.add hs.comparison.groupGap))).mono

include ht

/-- **A bar of a comparison is defined as a bar of a bar chart is.** The one on the left grows to the left,
    so it starts where its label is placed, and the one on the right ends there. -/
theorem defined_comparisonBar {d : Series α} {m : ℚ} (hm : value? f.maxValue = some m)
    (hpos : 0 < m) (hd : AllFinite d.amounts)
    (hle : ∀ y ∈ d.amounts, ∀ w, value? y = some w → w ≤ m) (side : Nat) {i : Nat}
    (hi : i ≤ 2 ^ 64) : (f.bar p t s.comparison d side i).Defined := by
  obtain ⟨v, hv, hvm⟩ := exists_entry_value hd hpos.le hle i
  have hwidth : Within 130 (f.length ((d.entries[i]?.map Entry.amount).getD 0)) :=
    ((within_greater_quotient hv hm hvm hpos).mul hf.halfExtent).mono
  have hy := (within_groupY hf hs hi).sub hs.comparison.barGap
  have hlabelY := (hy.add (hs.comparison.barHeight.div_natCast (n := 2))).mono (k := 500)
  have hsize := ht.fontSize.mono (k := 500)
  have hleft := hf.centerX.sub hwidth
  have hright := hf.centerX.add hwidth
  have hgap := within_literal (α := α) (n := 5)
  exact
    { x := by
        show IsDefined (if side = 0 then _ else _)
        split
        · exact hleft.isFinite
        · exact hf.centerX.isFinite
      y := hy.isFinite
      width := hwidth.isFinite
      height := hs.comparison.barHeight.isFinite
      value := isFinite_of_value hv
      label := by
        unfold ComparisonFrame.bar
        simp only
        split
        · exact defined_label (hleft.sub hgap).mono hlabelY hsize
        · exact defined_label (hright.add hgap).mono hlabelY hsize }

omit hs in
/-- The name of a side, at a share of the plot that does not depend on the amounts. -/
theorem defined_sideName (side : Nat) {share : α} (hshare : Within 64 share) (fallback : String) :
    (f.sideName p t side share fallback).Defined :=
  defined_label (hf.plot.left.add (hf.plot.width.mul hshare)).mono
    (hf.plot.top.sub within_literal).mono
    (ht.fontSize.add within_literal).mono

end Comparison

/-- **Comparison charts of moderate plans are defined.** Both sides are measured by the greatest amount of
    the two, and so each of them is measured by something that is not below its own. -/
theorem defined_comparisonLayout (hp : p.Moderate) (ht : t.Moderate) (hs : s.Moderate) :
    (comparisonLayout p t s).Defined := by
  unfold comparisonLayout
  simp only
  split
  · rename_i left right hleft hright
    split
    · exact defined_insufficient hs _ _
    have hf := bounded_comparisonFrame hs left right hp.labels
    have hl := hp.amounts left (mem_series_of_filled? hleft)
    have hr := hp.amounts right (mem_series_of_filled? hright)
    have hamounts : AllFinite (left.amounts ++ right.amounts) := by
      intro x hx
      exact (List.mem_append.1 hx).elim (hl x) (hr x)
    obtain ⟨m, hm, hpos, hle⟩ := exists_scaleMax hamounts
    have hcenter := hf.centerX.mono (k := 500)
    refine defined_chartLayout ht hs (d := .comparison _)
      { divider := defined_segment hcenter hf.plot.top.mono hcenter hf.plot.bottom.mono
        maxValue := isFinite_of_value hm
        leftName := defined_sideName hf ht 0 within_fraction _
        rightName := defined_sideName hf ht 1 within_fraction _
        groups := forall_mem_indexed fun label _ i hi => ?_ }
    have hi' := hi.le.trans hp.labels
    exact
      { category := defined_label hcenter
          ((within_groupY hf hs hi').add hs.comparison.barHeight).mono
          (ht.fontSize.add within_literal).mono
        left := defined_comparisonBar hf ht hs hm hpos hl
          (fun y hy => hle y (List.mem_append_left _ hy)) 0 hi'
        right := defined_comparisonBar hf ht hs hm hpos hr
          (fun y hy => hle y (List.mem_append_right _ hy)) 1 hi' }
  · exact defined_insufficient hs _ _

end Infochart.Layout
