import Infochart.Proofs.Layout.Boxes
import Infochart.Proofs.Layout.Circles

/-!
# Lines without undefined numbers

Lines are drawn between the least and the greatest amount, so a line chart computes with their difference,
and that may be out of range although both are in it. Where it is, what is computed from it is undefined.
The last step of the axis, which adds the difference to the least amount again, tells the two cases apart:
a layout is defined if and only if no line chart has an infinite last step.

The last step is the one to look at, rather than the difference, because it is a number of the layout. That
it is finite gives the difference (infinities do not vanish in sums), hence the places of all amounts and,
as roundings keep the order, all other steps. The other direction is read off the axis itself.
-/

namespace Infochart.Layout

open Decimal (rounding)
open Binary64 (value?)

variable {α : Type} [Scale α] [Binary64 α] {p : Plan α} {t : Theme α} {s : Settings α}

/-- The last step of an axis between two amounts. -/
def lastStep (low high : α) : α :=
  low + (high - low)

/-- The measures of a line chart, with amounts in order at both ends of its scale. -/
structure LineFrame.Bounded (f : LineFrame α) (l h : ℚ) : Prop where
  plot : f.plot.Bounded
  categories : f.categories ≤ 2 ^ 64
  low : value? f.minValue = some l
  high : value? f.maxValue = some h
  ordered : l ≤ h

/-- The ends of a scale. All amounts are between them, and they are amounts themselves if there are
    any. -/
theorem exists_ends {values : List α} (hvalues : AllFinite values) :
    ∃ l h, value? ((least values).getD 0) = some l ∧ value? ((greatest values).getD 0) = some h ∧
      l ≤ h ∧ (∀ y ∈ values, ∀ w, value? y = some w → l ≤ w ∧ w ≤ h) ∧
      ∀ e, e = l ∨ e = h → e = 0 ∨ ∃ y ∈ values, value? y = some e := by
  by_cases hne : values = []
  · subst hne
    exact ⟨0, 0, value?_zero, value?_zero, le_rfl, by simp, fun e he => .inl (by tauto)⟩
  · obtain ⟨low, l, hlow, hl, ⟨y, hy, hyl⟩, hle⟩ := exists_least hvalues hne
    obtain ⟨high, h, hhigh, hh, hmem, hge⟩ := exists_greatest hvalues hne
    rw [hlow, hhigh]
    refine ⟨l, h, hl, hh, hge y hy l hyl, fun y hy w hw => ⟨hle y hy w hw, hge y hy w hw⟩, ?_⟩
    rintro e (rfl | rfl)
    · exact .inr ⟨y, hy, hyl⟩
    · exact .inr hmem

section Frame

variable {f : LineFrame α} {l h : ℚ} (hf : f.Bounded l h)
include hf

/-- A single category stands in the middle of the plot, so that there is no division by zero. -/
theorem within_xAt {i : Nat} (hi : i ≤ 2 ^ 64) : Within 300 (f.xAt i) := by
  have hcount := hf.categories
  unfold LineFrame.xAt
  split
  · exact (hf.plot.left.add (((within_natCast hi).div_natCast (by omega) (by omega)).mul
      hf.plot.width)).mono
  · exact (hf.plot.left.add hf.plot.width.div_natCast).mono

/-- **If the last step is finite, every amount of the scale has a place.** -/
theorem within_yAt (hend : IsDefined (lastStep f.minValue f.maxValue)) {value : α} {v : ℚ}
    (hv : value? value = some v) (hlv : l ≤ v) (hvh : v ≤ h) : Within 300 (f.yAt value) := by
  have hrange := (Binary64.finite_of_add hend).2
  have hshare : Within 64 (f.shareOf value) := by
    unfold LineFrame.shareOf
    simp only
    split
    · rename_i hpos
      exact (within_range_share hf.low hf.high hv hlv hvh hrange hpos).mono
    · exact within_half
  exact (hf.plot.bottom.sub (hshare.mul hf.plot.height)).mono

/-- The points of a series have a place for each amount, and the line goes through the same places. -/
theorem defined_lineSeries (ht : t.Moderate) (hend : IsDefined (lastStep f.minValue f.maxValue))
    {d : Series α} (hd : AllFinite d.amounts)
    (hle : ∀ y ∈ d.amounts, ∀ w, value? y = some w → l ≤ w ∧ w ≤ h) (name color : String) :
    (f.series t name color d).Defined := by
  have hpoint : ∀ q ∈ (f.series t name color d).points, q.Defined := by
    refine forall_mem_indexed fun e he i hi => ?_
    have hmem : e.amount ∈ d.amounts := List.mem_map_of_mem (List.mem_of_mem_take he)
    obtain ⟨v, hv⟩ := (Binary64.isFinite_iff e.amount).1 (hd e.amount hmem)
    obtain ⟨hlv, hvh⟩ := hle e.amount hmem v hv
    have hcount := hf.categories
    rw [List.length_take] at hi
    have hx := within_xAt hf (i := i) (by omega)
    have hy := within_yAt hf hend hv hlv hvh
    exact
      { x := hx.isFinite
        y := hy.isFinite
        value := isFinite_of_value hv
        label := defined_label hx.mono (hy.sub within_literal).mono ht.smallFontSize.mono }
  refine ⟨defined_polyline (fun q hq => ?_) false, hpoint⟩
  obtain ⟨e, he, rfl⟩ := List.mem_map.1 hq
  exact ⟨(hpoint e he).x, (hpoint e he).y⟩

/-- The step at the end of the axis is the last step. -/
theorem isDefined_lastStep [Written α] {count : Nat} (hcount : count < 2 ^ 53)
    (hticks : ∀ k ∈ valueTicks f.plot .vertical f.minValue f.maxValue count t, k.Defined) :
    IsDefined (lastStep f.minValue f.maxValue) := by
  have hpos : 0 < max count 1 := by omega
  have hmax : max count 1 < 2 ^ 53 := by omega
  have htick := (hticks _ (List.mem_map_of_mem (List.mem_range.2 (Nat.lt_succ_self _)))).value
  have hcast : value? ((max count 1 : Nat) : α) = some ((max count 1 : Nat) : ℚ) :=
    value?_natCast hmax
  have hne : ((max count 1 : Nat) : ℚ) ≠ 0 := Nat.cast_ne_zero.2 hpos.ne'
  have hratio : value? (((max count 1 : Nat) : α) / ((max count 1 : Nat) : α)) = some 1 := by
    have hdiv := Binary64.div hcast hcast hne
    rw [div_self hne] at hdiv
    have hvalue := (hdiv.of_abs_le (k := 0) (by decide) (by norm_num)).1
    rwa [Decimal.rounding_one] at hvalue
  -- The share of one that the range has is the range itself.
  obtain ⟨-, hpart⟩ := Binary64.finite_of_add htick
  obtain ⟨d, hd⟩ := (Binary64.isFinite_iff _).1 (Binary64.finite_of_mul hpart).2
  obtain ⟨hkept, hrange⟩ := Binary64.kept hd
  have hmul := Binary64.mul hratio hd
  rw [one_mul] at hmul
  have hpart : value? (((max count 1 : Nat) : α) / ((max count 1 : Nat) : α) *
      (f.maxValue - f.minValue)) = some d := by
    rw [hmul.value (by rw [hkept]; exact hrange), hkept]
  obtain ⟨e, he⟩ := (Binary64.isFinite_iff _).1 htick
  exact isFinite_of_value
    ((Binary64.add hf.low hd).value ((Binary64.add hf.low hpart).eq_rounding he).2)

end Frame

/-- The frame of a line chart. Its ends are amounts of the plan or zero, which is what small amounts are
    told by (`defined_ofPlan_of_small`). -/
theorem exists_lineFrame (hp : p.Moderate) (hs : s.Moderate) :
    ∃ l h, (LineFrame.of p s).Bounded l h ∧
      (∀ y ∈ (p.datasets 5).flatMap Series.amounts, ∀ w, value? y = some w → l ≤ w ∧ w ≤ h) ∧
      ∀ e, e = l ∨ e = h → e = 0 ∨ ∃ d ∈ p.series, ∃ y ∈ d.amounts, value? y = some e := by
  obtain ⟨l, h, hl, hh, hle, hbetween, hends⟩ :=
    exists_ends (hp.allFinite fun d (hd : d ∈ p.datasets 5) => mem_series_of_mem_datasets hd)
  refine ⟨l, h,
    { plot := bounded_plotArea (hs.canvas .line) hs.margin
      categories := hp.labels
      low := hl
      high := hh
      ordered := hle }, hbetween, fun e he => (hends e he).imp_right ?_⟩
  rintro ⟨y, hy, hye⟩
  obtain ⟨d, hd, hy⟩ := List.mem_flatMap.1 hy
  exact ⟨d, mem_series_of_mem_datasets hd, y, hy, hye⟩

/-- Whether the last step of a line chart is finite, if the diagram is one. -/
def Diagram.EndsDefined (d : Diagram α) : Prop :=
  ∀ c, d = .line c → IsDefined (lastStep c.minValue c.maxValue)

instance (d : Diagram α) : Decidable d.EndsDefined :=
  match d with
  | .line c =>
    decidable_of_iff (IsDefined (lastStep c.minValue c.maxValue))
      ⟨fun h _ hc => by cases hc; exact h, fun h => h c rfl⟩
  | .bar _ | .pie _ | .radar _ | .process _ | .timeline _ | .comparison _ | .placeholder _ =>
    .isTrue fun _ hc => nomatch hc

omit [Binary64 α] in
/-- Rows of line charts are drawn as strokes, with their labels lower than those of boxes. -/
theorem LegendItem.Defined.moveLabel {item : LegendItem α} (h : item.Defined) {y : α}
    (hy : IsDefined y) : LegendItem.Defined { item with label := { item.label with y := y } } :=
  { h with label := { h.label with y := hy } }

/-- If the last step is finite, all of a line chart is. -/
theorem defined_lineLayout [Written α] (hp : p.Moderate) (ht : t.Moderate) (hs : s.Moderate)
    (hlast : (lineLayout p t s).diagram.EndsDefined) : (lineLayout p t s).Defined := by
  unfold lineLayout at hlast ⊢
  simp only at hlast ⊢
  split at hlast
  · rename_i hempty
    rw [if_pos hempty]
    exact defined_insufficient hs _ _
  rename_i hfull
  rw [if_neg hfull]
  obtain ⟨l, h, hf, hbetween, -⟩ := exists_lineFrame hp hs
  have hend := hlast _ rfl
  have hcount : (p.datasets 5).length ≤ 2 ^ 64 := (length_datasets_le 5).trans (by decide)
  have hbottom := hf.plot.bottom.mono (k := 400)
  have hx (i : Nat) (hi : i < p.labels.length) := within_xAt hf (hi.le.trans hp.labels)
  refine defined_chartLayout ht hs (d := .line _)
    { plot := hf.plot.defined
      minValue := isFinite_of_value hf.low
      maxValue := isFinite_of_value hf.high
      strokeWidth := hs.line.strokeWidth.isFinite
      pointRadius := hs.line.pointRadius.isFinite
      series := forall_mem_indexed fun d hd i _ =>
        defined_lineSeries hf ht hend (hp.amounts d (mem_series_of_mem_datasets hd))
          (fun y hy => hbetween y (List.mem_flatMap.2 ⟨d, hd, hy⟩)) _ _
      categories := forall_mem_indexed fun text _ i hi =>
        defined_label (hx i hi).mono (hbottom.add within_literal).mono ht.fontSize.mono
      marks := forall_mem_range fun i hi =>
        defined_segment (hx i hi).mono hbottom.mono
          (hx i hi).mono (hbottom.add within_literal).mono
      ticks := defined_valueTicks ht hf.plot _ hf.low hf.high hf.ordered hend hs.tickCount
      legend := defined_rows fun i hi => ?_ }
  have hy := hf.plot.top.add
    ((within_natCast (α := α) (n := i) (by omega)).mul hs.line.legendSpacing)
  have hitem := defined_legendItem ht (p.color i) (p.seriesName i)
    (hf.plot.right.sub (within_literal (n := 150))).mono
    hy.mono (within_literal (n := 15))
    (within_literal (n := 3))
  exact hitem.moveLabel (hy.add within_literal).isFinite

/-- **A line chart is defined exactly if its last step is.** -/
theorem defined_lineLayout_iff [Written α] (hp : p.Moderate) (ht : t.Moderate) (hs : s.Moderate) :
    (lineLayout p t s).Defined ↔ (lineLayout p t s).diagram.EndsDefined := by
  refine ⟨fun hdefined => ?_, defined_lineLayout hp ht hs⟩
  unfold lineLayout at hdefined ⊢
  simp only at hdefined ⊢
  split at hdefined
  · rename_i hempty
    rw [if_pos hempty]
    intro c hc
    cases hc
  rename_i hfull
  rw [if_neg hfull]
  obtain ⟨l, h, hf, -, -⟩ := exists_lineFrame hp hs
  intro c hc
  cases hc
  have hdiagram : LineChart.Defined _ := hdefined.diagram
  exact isDefined_lastStep hf hs.tickCount hdiagram.ticks

/-- Ends that are at most an eighth of the greatest power of two are not too far from one another. -/
theorem isDefined_lastStep_of_small {low high : α} {l h : ℚ} (hlow : value? low = some l)
    (hhigh : value? high = some h) (hl : |l| ≤ 2 ^ 1021) (hh : |h| ≤ 2 ^ 1021) :
    IsDefined (lastStep low high) := by
  have hrange : |h - l| ≤ 2 ^ 1022 := by
    refine (abs_sub h l).trans ?_
    rw [pow_succ 2 1021, mul_two]
    exact add_le_add hh hl
  obtain ⟨hd, hdle⟩ := (Binary64.sub hhigh hlow).of_abs_le (by decide) hrange
  have hsum : |l + rounding (h - l)| ≤ 2 ^ 1023 := by
    refine (abs_add_le _ _).trans ?_
    have hlarger : (2 : ℚ) ^ 1021 ≤ 2 ^ 1022 := pow_le_pow_right₀ one_le_two (by decide)
    rw [pow_succ 2 1022, mul_two]
    exact add_le_add (hl.trans hlarger) hdle
  exact isFinite_of_value ((Binary64.add hlow hd).of_abs_le (by decide) hsum).1

/-! ## All kinds of charts -/

omit [Binary64 α] in
/-- No other kind makes a line chart, neither as its diagram nor as the box in place of one. -/
theorem diagram_ofPlan_ne_line [Written α] (hkind : p.kind ≠ .line) (c : LineChart α) :
    (ofPlan p t s).diagram ≠ .line c := by
  unfold ofPlan
  intro hc
  cases hk : p.kind with
  | line => exact hkind hk
  | bar =>
    rw [hk] at hc
    unfold barLayout at hc
    simp only at hc
    split at hc <;> cases hc
  | pie =>
    rw [hk] at hc
    unfold pieLayout at hc
    simp only at hc
    split at hc
    · cases hc
    · split at hc <;> cases hc
  | radar =>
    rw [hk] at hc
    unfold radarLayout at hc
    simp only at hc
    split at hc <;> cases hc
  | process =>
    rw [hk] at hc
    unfold processLayout at hc
    simp only at hc
    split at hc <;> cases hc
  | timeline =>
    rw [hk] at hc
    unfold timelineLayout at hc
    simp only at hc
    split at hc <;> cases hc
  | comparison =>
    rw [hk] at hc
    unfold comparisonLayout at hc
    simp only at hc
    split at hc
    · split at hc <;> cases hc
    · cases hc

/-- **The layout of a moderate plan is defined if and only if no line chart has an infinite last step.** -/
theorem defined_ofPlan_iff [Written α] (hp : p.Moderate) (ht : t.Moderate) (hs : s.Moderate) :
    (ofPlan p t s).Defined ↔ (ofPlan p t s).diagram.EndsDefined := by
  by_cases hline : p.kind = .line
  · unfold ofPlan
    rw [hline]
    exact defined_lineLayout_iff hp ht hs
  refine ⟨fun _ c hc => absurd hc (diagram_ofPlan_ne_line hline c), fun _ => ?_⟩
  unfold ofPlan
  cases hk : p.kind with
  | line => exact absurd hk hline
  | bar => exact defined_barLayout hp ht hs
  | pie => exact defined_pieLayout hp ht hs
  | radar => exact defined_radarLayout hp ht hs
  | process => exact defined_processLayout hp ht hs
  | timeline => exact defined_timelineLayout hp ht hs
  | comparison => exact defined_comparisonLayout hp ht hs

/-- **Amounts up to `2 ^ 1021` are always drawn.** -/
theorem defined_ofPlan_of_small [Written α] (hp : p.Moderate) (ht : t.Moderate) (hs : s.Moderate)
    (hsmall : ∀ d ∈ p.series, ∀ y ∈ d.amounts, ∀ v, value? y = some v → |v| ≤ 2 ^ 1021) :
    (ofPlan p t s).Defined := by
  rw [defined_ofPlan_iff hp ht hs]
  intro c hc
  by_cases hline : p.kind = .line
  · unfold ofPlan at hc
    rw [hline] at hc
    unfold lineLayout at hc
    simp only at hc
    split at hc
    · cases hc
    · cases hc
      obtain ⟨l, h, hf, -, hends⟩ := exists_lineFrame hp hs
      have hbound : ∀ e, e = l ∨ e = h → |e| ≤ 2 ^ 1021 := by
        intro e he
        rcases hends e he with rfl | ⟨d, hd, y, hy, hye⟩
        · rw [abs_zero]
          exact pow_nonneg zero_le_two 1021
        · exact hsmall d hd y hy e hye
      exact isDefined_lastStep_of_small hf.low hf.high (hbound l (.inl rfl)) (hbound h (.inr rfl))
  · exact absurd hc (diagram_ofPlan_ne_line hline c)

end Infochart.Layout
