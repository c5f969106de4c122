import Infochart.Proofs.Layout.Bars

/-!
# Circles without undefined numbers

Pie charts and radar charts of moderate plans are defined, whatever their amounts. An angle is as good as
its size, because the functions of the circle stay between minus one and one wherever they are finite.
The angles of a pie are a running sum over any number of slices: a slice is at most a full turn, and from
`2 ^ 57` on a full turn is too little to be counted, so the sum never gets past that.
-/

namespace Infochart.Layout

open Decimal (rounding)
open Binary64 (value?)

variable {α : Type} [Scale α] [Binary64 α] {p : Plan α} {t : Theme α} {s : Settings α}

/-- A place on a circle. The bound of the angle does not go into that of the place: an angle only has to be
    finite, since its functions are at most one then. -/
theorem within_onCircle {x y radius angle : α} {j k : Nat} (hx : Within j x) (hy : Within j y)
    (hr : Within j radius) (ha : Within k angle) (hk : k ≤ 1000) :
    Within (j + 1) (onCircle x y radius angle).1 ∧ Within (j + 1) (onCircle x y radius angle).2 :=
  ⟨(hx.add (hr.mul (ha.cos hk))).mono (by omega), (hy.add (hr.mul (ha.sin hk))).mono (by omega)⟩

/-! ## Pie charts -/

/-- The measures of a pie chart. The total may be as large as numbers go, since it is only divided by. -/
structure PieFrame.Bounded (f : PieFrame α) : Prop where
  centerX : Within 130 f.centerX
  centerY : Within 130 f.centerY
  radius : Within 130 f.radius
  labelRadius : Within 130 f.labelRadius

/-- A full turn is at most eight. Two is bounded here as what it is and not as any literal, because the
    bound of all literals is too coarse for a running sum. -/
theorem within_fullTurn : Within 3 (fullTurn : α) := by
  have htwo : Within 1 (2 : α) :=
    within_of_value (value?_natCast (n := 2) (by decide)) (by norm_num)
  exact htwo.mul within_pi

/-- What is at most a full turn is lost on a running sum of `2 ^ 57`. The bound for any sum would be one
    more with every slice, and there are as many slices as amounts. Here rounding brings the sum back:
    from `2 ^ 57` on, numbers are 32 apart, and what is less than half of that past one of them is dropped. -/
theorem within_add_turn {x y : α} (hx : Within 57 x) (hy : Within 3 y) : Within 57 (x + y) := by
  intro _
  obtain ⟨v, hxv, hv⟩ := hx (by decide)
  obtain ⟨w, hyw, hw⟩ := hy (by decide)
  have hsum : |v + w| ≤ 2 ^ 57 + 2 ^ 57 / 2 ^ 54 := by
    refine (abs_add_le v w).trans ?_
    have hturn : (2 : ℚ) ^ 3 = 2 ^ 57 / 2 ^ 54 := by norm_num
    linarith
  have hle : |rounding (v + w)| ≤ 2 ^ 57 := by
    rw [Decimal.abs_rounding]
    exact Decimal.rounding_le_two_pow hsum
  have hlt : (2 : ℚ) ^ 57 < 2 ^ 1024 := pow_lt_pow_right₀ one_lt_two (by decide)
  exact ⟨_, (Binary64.add hxv hyw).value (hle.trans_lt hlt), hle⟩

/-- An amount that a slice is drawn for: it is not greater than the total, so what it is of the total is
    at most one, however large both are. -/
structure PieFrame.Draws (f : PieFrame α) (value : α) : Prop where
  finite : IsDefined value
  fraction : Within 0 (value / f.total)

section Slices

variable {f : PieFrame α}

theorem PieFrame.Draws.sweep {value : α} (h : f.Draws value) : Within 3 (f.sweep value) :=
  (h.fraction.mul within_fullTurn).mono

/-- **Every slice starts at an angle that is not too large**, however many there are. The induction is on
    the amounts, for any place and any start below the bound: an amount without a slice moves the place
    on, and one with a slice also the start. -/
theorem within_start {values : List α} (hvalues : ∀ v ∈ values, ¬ v ≤ 0 → f.Draws v) {index : Nat}
    {start : α} (hstart : Within 57 start) :
    ∀ s ∈ f.shares index start values, f.Draws s.value ∧ Within 57 s.start := by
  induction values generalizing index start with
  | nil => simp [PieFrame.shares]
  | cons v r ih =>
    have hr : ∀ u ∈ r, ¬ u ≤ 0 → f.Draws u := fun u hu => hvalues u (List.mem_cons_of_mem v hu)
    unfold PieFrame.shares
    split
    · exact ih hr hstart
    · rename_i hpos
      have hv := hvalues v List.mem_cons_self hpos
      intro s hs
      rcases List.mem_cons.1 hs with rfl | hs
      · exact ⟨hv, hstart⟩
      · exact ih hr (within_add_turn hstart hv.sweep) s hs

omit [Binary64 α] in
/-- There are no more slices than amounts, and so no more rows of the legend. -/
theorem length_shares_le (values : List α) (index : Nat) (start : α) :
    (f.shares index start values).length ≤ values.length := by
  induction values generalizing index start with
  | nil => exact le_rfl
  | cons v r ih =>
    unfold PieFrame.shares
    split
    · exact (ih _ _).trans (Nat.le_succ _)
    · exact Nat.succ_le_succ (ih _ _)

/-- The outline of a slice, as a wedge or, for a full turn, as two halves. The second half starts at half a
    turn from the first, so an angle that is neither end comes in. -/
theorem defined_slicePath {x y radius start stop : α} (hx : Within 130 x) (hy : Within 130 y)
    (hr : Within 130 radius) (hstart : Within 60 start) (hstop : Within 60 stop) :
    (slicePath x y radius start stop).Defined := by
  have hradius := hr.isFinite
  have hplace (angle : α) (h : Within 61 angle) :
      IsDefined (onCircle x y radius angle).1 ∧ IsDefined (onCircle x y radius angle).2 := by
    obtain ⟨h₁, h₂⟩ := within_onCircle hx hy hr h (by decide)
    exact ⟨h₁.isFinite, h₂.isFinite⟩
  have h₁ := hplace start hstart.mono
  have h₂ := hplace stop hstop.mono
  have h₃ := hplace (start + Scale.pi) (hstart.add within_pi).mono
  unfold Path.Defined slicePath
  simp only
  split
  · simp only [List.forall_mem_cons]
    exact ⟨h₁, ⟨hradius, h₃⟩, ⟨hradius, h₁⟩, trivial, by simp⟩
  · simp only [List.forall_mem_cons]
    exact ⟨⟨hx.isFinite, hy.isFinite⟩, h₁, ⟨hradius, h₂⟩, trivial, by simp⟩

variable [Written α]

/-- **A slice is defined if its start is not too large.** Its end has the bound that the start has, as it
    is the start of the next one. -/
theorem defined_slice (hf : f.Bounded) (ht : t.Moderate) {s : Share α} (hs : f.Draws s.value)
    (hstart : Within 57 s.start) : (f.slice p t s).Defined := by
  have hstop : Within 57 (s.start + f.sweep s.value) := within_add_turn hstart hs.sweep
  have hmiddle := hstart.add (hs.sweep.div_natCast (n := 2))
  obtain ⟨hx, hy⟩ :=
    within_onCircle hf.centerX hf.centerY hf.labelRadius hmiddle (by decide)
  exact
    { value := hs.finite
      percent := (hs.fraction.mul within_literal).isFinite
      startAngle := hstart.isFinite
      endAngle := hstop.isFinite
      sweep := (hstop.sub hstart).isFinite
      path := defined_slicePath hf.centerX hf.centerY hf.radius hstart.mono hstop.mono
      percentLabel := defined_label hx.mono hy.mono (ht.fontSize.add within_literal).mono }

end Slices

/-- The amounts above zero are not greater than their sum, as far as that is finite. Two amounts in range
    can have a sum that is not; a pie chart looks at that itself, and is not drawn then. -/
theorem draws_of_total {f : PieFrame α} {values : List α} (hvalues : AllFinite values)
    (htotal : f.total = total (values.filter (0 < ·))) (hfin : IsDefined f.total) :
    ∀ v ∈ values, ¬ v ≤ 0 → f.Draws v := by
  have hpos : ∀ y ∈ values.filter (0 < ·), ∃ w, value? y = some w ∧ 0 < w := by
    intro y hy
    obtain ⟨hy, hlt⟩ := List.mem_filter.1 hy
    obtain ⟨w, hw⟩ := (Binary64.isFinite_iff y).1 (hvalues y hy)
    exact ⟨w, hw, (Binary64.lt_iff value?_zero hw).1 (of_decide_eq_true hlt)⟩
  have hsum : Scale.isFinite ((values.filter (0 < ·)).foldl (· + ·) 0) = true := by
    rw [htotal] at hfin
    exact hfin
  obtain ⟨m, hm, -, hle⟩ := exists_sum hpos value?_zero le_rfl hsum
  intro v hv hnot
  obtain ⟨w, hw⟩ := (Binary64.isFinite_iff v).1 (hvalues v hv)
  rw [Binary64.le_iff hw value?_zero, not_le] at hnot
  have hmem : v ∈ values.filter (0 < ·) :=
    List.mem_filter.2 ⟨hv, decide_eq_true ((Binary64.lt_iff value?_zero hw).2 hnot)⟩
  have hwm := hle v hmem w hw
  obtain ⟨r, hr, hr0, hr1⟩ := exists_quotient hw hm hnot.le hwm (hnot.trans_le hwm)
  refine ⟨isFinite_of_value hw, ?_⟩
  rw [htotal]
  refine within_of_value hr ?_
  rw [abs_of_nonneg hr0, pow_zero]
  exact hr1

theorem defined_slices [Written α] {f : PieFrame α} (hf : f.Bounded) (ht : t.Moderate)
    {values : List α} (hvalues : AllFinite values) (htotal : f.total = total (values.filter (0 < ·)))
    (hfin : IsDefined f.total) : ∀ e ∈ f.shares 0 0 values, (f.slice p t e).Defined := by
  intro e he
  have hzero : Within 57 (0 : α) := within_of_value value?_zero (by norm_num)
  obtain ⟨hdraws, hstart⟩ := within_start (draws_of_total hvalues htotal hfin) hzero e he
  exact defined_slice hf ht hdraws hstart

/-- **Pie charts of moderate plans are defined.** -/
theorem defined_pieLayout [Written α] (hp : p.Moderate) (ht : t.Moderate) (hs : s.Moderate) :
    (pieLayout p t s).Defined := by
  unfold pieLayout
  simp only
  split
  · exact defined_insufficient hs _ _
  rename_i d hd
  have hd := mem_series_of_filled? hd
  split
  · exact defined_insufficient hs _ _
  rename_i hfull
  have hfin : IsDefined (total (d.amounts.filter (0 < ·))) := by
    simp only [Bool.or_eq_true, not_or, Bool.not_eq_true, Bool.not_eq_false'] at hfull
    exact hfull.2.2
  have hc := hs.canvas .pie
  have hf : PieFrame.Bounded
      { centerX := (s.canvas .pie).width * (3 / 8)
        centerY := (s.canvas .pie).height / 2
        radius := s.pie.radius
        labelRadius := s.pie.radius * s.pie.labelRadiusRatio
        total := total (d.amounts.filter (0 < ·)) } :=
    { centerX := (hc.width.mul within_fraction).mono
      centerY := (hc.height.div_natCast).mono
      radius := hs.pie.radius.mono
      labelRadius := (hs.pie.radius.mul hs.pie.labelRadiusRatio).mono }
  refine defined_chartLayout ht hs (d := .pie _)
    { centerX := hf.centerX.isFinite
      centerY := hf.centerY.isFinite
      radius := hf.radius.isFinite
      total := hfin
      slices := fun slice hslice => ?_
      legend := forall_mem_indexed fun e _ row hrow => ?_ }
  · obtain ⟨e, he, rfl⟩ := List.mem_map.1 hslice
    exact defined_slices hf ht (hp.amounts d hd) rfl hfin e he
  · have hcount : row ≤ 2 ^ 64 := by
      have hamounts : d.amounts.length ≤ 2 ^ 64 := (List.length_map _).trans_le (hp.entries d hd)
      exact hrow.le.trans
        ((List.length_filter_le _ _).trans ((length_shares_le _ _ _).trans hamounts))
    exact defined_legendItem ht _ _
      (hc.width.mul within_fraction).mono
      ((hc.height.mul within_fraction).add
        ((within_natCast hcount).mul hs.pie.legendSpacing)).mono
      hs.pie.legendSwatch hs.pie.legendSwatch

/-! ## Radar charts -/

/-- The measures of a radar chart. All but the greatest amount are of moderate size. There is an axis for
    each label; their number is divided by, so that there is one belongs to the bounds. -/
structure RadarFrame.Bounded (f : RadarFrame α) : Prop where
  centerX : Within 64 f.centerX
  centerY : Within 64 f.centerY
  radius : Within 64 f.radius
  axisCount : 0 < f.axisCount
  axisCount_le : f.axisCount ≤ 2 ^ 64

theorem bounded_radarFrame (hp : p.Moderate) (hs : s.Moderate) (hlabels : 0 < p.labels.length) :
    (RadarFrame.of p s).Bounded where
  centerX := (hs.canvas .radar).width.div_natCast
  centerY := (hs.canvas .radar).height.div_natCast
  radius := hs.radar.radius
  axisCount := hlabels
  axisCount_le := hp.labels

omit [Scale α] [Binary64 α] in
theorem mem_series_of_mem_radarSeries {d : Series α} (h : d ∈ radarSeries p) : d ∈ p.series := by
  unfold radarSeries at h
  split at h
  · cases h
  · rename_i first hfirst
    rcases List.mem_cons.1 h with rfl | h
    · exact mem_series_of_filled? hfirst
    · exact mem_series_of_filled? (Option.mem_toList.1 h)

omit [Scale α] [Binary64 α] in
theorem length_radarSeries_le : (radarSeries p).length ≤ 2 := by
  unfold radarSeries
  split
  · exact Nat.zero_le 2
  · cases p.filled? 2 with
    | none => exact Nat.le_succ 1
    | some second => exact le_rfl

section Radar

variable {f : RadarFrame α} (hf : f.Bounded) (ht : t.Moderate)
include hf

/-- The angle of an axis, counted from the upright one. -/
theorem within_angle {i : Nat} (hi : i ≤ 2 ^ 64) : Within 70 (f.angle i) :=
  (((within_natCast hi).mul (within_fullTurn.div_natCast hf.axisCount hf.axisCount_le)).sub
    (within_pi.div_natCast (n := 2))).mono

/-- A place on an axis, at a distance from the middle. -/
theorem within_spoke {i : Nat} (hi : i ≤ 2 ^ 64) {reach : α} (hr : Within 65 reach) :
    Within 66 (f.centerX + reach * Scale.cos (f.angle i)) ∧
      Within 66 (f.centerY + reach * Scale.sin (f.angle i)) :=
  within_onCircle hf.centerX.mono hf.centerY.mono hr (within_angle hf hi) (by decide)

include ht

theorem defined_axis (hs : s.Moderate) (text : String) {i : Nat} (hi : i ≤ 2 ^ 64) :
    (f.axis s.radar t text i).Defined := by
  obtain ⟨hx, hy⟩ := within_spoke hf hi hf.radius.mono
  obtain ⟨hlx, hly⟩ := within_spoke hf hi (hf.radius.add hs.radar.labelOffset)
  exact
    { angle := (within_angle hf hi).isFinite
      spoke := defined_segment hf.centerX.mono hf.centerY.mono hx.mono hy.mono
      label := defined_label hlx.mono hly.mono ht.fontSize.mono }

theorem defined_ring [Written α] (labels : List String) {count i : Nat} (hcount : 0 < count)
    (hcount' : count ≤ 2 ^ 64) (hi : i ≤ 2 ^ 64) : (f.ring t labels count i).Defined := by
  have hradius := (hf.radius.mul (within_natCast hi)).div_natCast hcount hcount'
  refine ⟨hradius.isFinite, fun l hl => ?_⟩
  unfold RadarFrame.ring at hl
  simp only at hl
  split at hl
  · obtain rfl := Option.some.inj hl
    exact defined_label hf.centerX.mono
      ((hf.centerY.sub hradius).sub within_literal).mono
      ht.smallFontSize.mono
  · cases hl

/-- **The points of a series are defined for every amount that is not above the greatest.** A point is at
    a share of the radius; the share is cut off at zero, so a negative amount is in the middle, even where
    the quotient is out of range. -/
theorem defined_radarSeries {d : Series α} {m : ℚ} (hm : value? f.maxValue = some m) (hpos : 0 < m)
    (hd : AllFinite d.amounts) (hle : ∀ y ∈ d.amounts, ∀ w, value? y = some w → w ≤ m)
    (name color : String) : (f.series t name color d).Defined := by
  have hpoint : ∀ q ∈ (List.range f.axisCount).map (f.point t color d), q.Defined := by
    refine forall_mem_range fun i hi => ?_
    have hi' : i ≤ 2 ^ 64 := hi.le.trans hf.axisCount_le
    obtain ⟨v, hv, hvm⟩ := exists_entry_value hd hpos.le hle i
    have hratio : Within 0 (f.ratio ((d.entries[i]?.map Entry.amount).getD 0)) :=
      within_clampUnit_quotient hv hm hvm hpos
    obtain ⟨hx, hy⟩ := within_spoke hf hi' (hratio.mul hf.radius).mono
    exact
      { x := hx.isFinite
        y := hy.isFinite
        value := isFinite_of_value hv
        ratio := hratio.isFinite
        label := defined_label hx.mono (hy.sub within_literal).mono ht.smallFontSize.mono }
  refine ⟨defined_polyline (fun q hq => ?_) true, hpoint⟩
  obtain ⟨e, he, rfl⟩ := List.mem_map.1 hq
  exact ⟨(hpoint e he).x, (hpoint e he).y⟩

end Radar

/-- **Radar charts of moderate plans are defined.** -/
theorem defined_radarLayout [Written α] (hp : p.Moderate) (ht : t.Moderate) (hs : s.Moderate) :
    (radarLayout p t s).Defined := by
  unfold radarLayout
  simp only
  split
  · exact defined_insufficient hs _ _
  rename_i hfull
  have hlabels : 0 < p.labels.length := by
    simp only [Bool.or_eq_true, List.isEmpty_iff, not_or] at hfull
    exact List.length_pos_iff.2 hfull.1
  have hf := bounded_radarFrame hp hs hlabels
  have hmem : ∀ d ∈ radarSeries p, d ∈ p.series := fun d hd => mem_series_of_mem_radarSeries hd
  obtain ⟨m, hm, hpos, hle⟩ := exists_scaleMax (hp.allFinite hmem)
  have hrings := hs.radar.rings
  refine defined_chartLayout ht hs (d := .radar _)
    { centerX := hf.centerX.isFinite
      centerY := hf.centerY.isFinite
      radius := hf.radius.isFinite
      maxValue := isFinite_of_value hm
      fillOpacity := hs.radar.fillOpacity.isFinite
      pointRadius := hs.radar.pointRadius.isFinite
      rings := fun r hr => ?_
      axes := forall_mem_indexed fun text _ i hi =>
        defined_axis hf ht hs text (hi.le.trans hp.labels)
      series := forall_mem_indexed fun d hd i _ => ?_
      legend := ?_ }
  · -- The rings are counted from one, so the number of the last one is the count.
    obtain ⟨i, hi, rfl⟩ := List.mem_map.1 hr
    have hi' := (List.mem_range'_1.1 hi).2
    exact defined_ring hf ht _ (by omega) (by omega) (by omega)
  · exact defined_radarSeries hf ht hm hpos (hp.amounts d (hmem d hd))
      (fun y hy => hle y (List.mem_flatMap.2 ⟨d, hd, hy⟩)) _ _
  · split
    · refine forall_mem_indexed fun e _ i hi => ?_
      have hcount := length_radarSeries_le (p := p)
      rw [List.length_map, List.length_zipIdx] at hi
      exact defined_legendItem ht _ _
        ((hs.canvas .radar).width.sub within_literal).mono
        ((within_literal).add ((within_natCast (by omega)).mul hs.radar.legendSpacing)).mono
        within_literal within_literal
    · simp

end Infochart.Layout
