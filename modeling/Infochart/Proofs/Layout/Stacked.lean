import Infochart.Proofs.Layout.Exact
import Infochart.Proofs.Layout.Shown
import Infochart.Drawing.OfLayout

/-!
# Boxes on the canvas

The boxes of a process diagram and the bars of a comparison chart keep their size, however many there
are, and are placed as a whole. So whether they are on the canvas is a matter of their number alone, with
a bound for each shape of diagram (`Plan.capacity`).

Each shape comes down to things of one size at equal distances along one axis (`within_iff`); along the
other axis all of them are within the canvas, whatever their number. What remains is a linear inequality
between the number and the standard sizes.
-/

namespace Infochart.Layout

open Chart (Kind Orientation)

/-! ## Areas -/

section Areas

variable {α : Type}

def Step.area (b : Step α) : Area α :=
  ⟨b.x, b.y, b.width, b.height⟩

def Bar.area (b : Bar α) : Area α :=
  ⟨b.x, b.y, b.width, b.height⟩

/-- What stands for the labels in diagrams that place it as a whole: steps, or pairs of bars. -/
def Diagram.boxes : Diagram α → List (Area α)
  | .process d => d.steps.map Step.area
  | .comparison c => c.groups.flatMap fun g => [g.left.area, g.right.area]
  | _ => []

end Areas

variable {α : Type} [Exact α]

/-- An area within a canvas, edge by edge. An area that touches the edge of the canvas is still on it. -/
structure Area.On (a : Area α) (width height : α) : Prop where
  left : 0 ≤ a.left
  right : a.right ≤ width
  top : 0 ≤ a.top
  bottom : a.bottom ≤ height

/-- Whether all boxes are on the canvas. -/
def HoldsBoxes (l : Layout α) : Prop :=
  ∀ a ∈ l.diagram.boxes, a.On l.width l.height

/-- Whether things of one size at equal distances are all within an extent is a matter of the first and
    the last one. -/
theorem within_iff {n : Nat} (hn : 0 < n) {start pitch size extent : α} (hpitch : 0 ≤ pitch) :
    (∀ i < n, 0 ≤ start + (i : α) * pitch ∧ start + (i : α) * pitch + size ≤ extent) ↔
      0 ≤ start ∧ start + ((n : α) - 1) * pitch + size ≤ extent := by
  constructor
  · intro h
    have hfirst := (h 0 hn).1
    have hlast := (h (n - 1) (by omega)).2
    rw [Nat.cast_pred hn] at hlast
    rw [Nat.cast_zero, zero_mul, add_zero] at hfirst
    exact ⟨hfirst, hlast⟩
  · rintro ⟨hfirst, hlast⟩ i hi
    have hbefore : 0 ≤ (i : α) * pitch := mul_nonneg (Nat.cast_nonneg i) hpitch
    have hbehind : (i : α) * pitch ≤ ((n : α) - 1) * pitch := by
      refine mul_le_mul_of_nonneg_right ?_ hpitch
      rw [← Nat.cast_pred hn]
      exact_mod_cast Nat.le_pred_of_lt hi
    exact ⟨by linarith, by linarith⟩

/-- A condition on a number of things that holds up to a bound and for no number above it. -/
theorem iff_le_of_cast {n k : Nat} {P : Prop} (hbelow : (n : α) ≤ k → P)
    (habove : P → (n : α) < (k + 1 : Nat)) : P ↔ n ≤ k :=
  ⟨fun h => Nat.lt_succ_iff.1 (Nat.cast_lt.1 (habove h)), fun h => hbelow (Nat.cast_le.2 h)⟩

/-! ## Process diagrams -/

section Process

def ProcessFrame.area (f : ProcessFrame α) (i : Nat) : Area α :=
  ⟨(f.corner i).1, (f.corner i).2, f.boxWidth, f.boxHeight⟩

variable {p : Plan α}

theorem boxes_processLayout [Written α] (hlabels : p.labels ≠ []) (t : Theme α) (s : Settings α) :
    (processLayout p t s).diagram.boxes =
      (List.range p.labels.length).map (ProcessFrame.of p s).area := by
  unfold processLayout
  rw [if_neg (by simpa using hlabels)]
  exact map_map_zipIdx_snd fun _ _ _ => rfl

/-- The standard frame of a row. That it is centered makes its start depend on the number of boxes. -/
theorem of_standard_row (h : p.orientation = .horizontal) :
    ProcessFrame.of p Settings.standard =
      { orientation := .horizontal, boxWidth := 120, boxHeight := 80, arrowLength := 40
        titleOffset := 25, originX := 420 - (p.labels.length : α) * 80, originY := 150 } := by
  have hx : (800 - ((p.labels.length : α) * 120 + ((p.labels.length : α) - 1) * 40)) / 2 =
      420 - (p.labels.length : α) * 80 := by ring
  have hy : (400 : α) * (3 / 8) = 150 := by norm_num
  unfold ProcessFrame.of
  simp only
  rw [h, literal_one]
  exact congrArg₂ (ProcessFrame.mk .horizontal 120 80 40 25) hx hy

theorem of_standard_column (h : p.orientation = .vertical) :
    ProcessFrame.of p Settings.standard =
      { orientation := .vertical, boxWidth := 200, boxHeight := 60, arrowLength := 30
        titleOffset := 22, originX := 300, originY := 215 - (p.labels.length : α) * 45 } := by
  have hx : ((800 : α) - 200) / 2 = 300 := by norm_num
  have hy : (400 - ((p.labels.length : α) * 60 + ((p.labels.length : α) - 1) * 30)) / 2 =
      215 - (p.labels.length : α) * 45 := by ring
  unfold ProcessFrame.of
  simp only
  rw [h, literal_one]
  exact congrArg₂ (ProcessFrame.mk .vertical 200 60 30 22) hx hy

variable (hlabels : p.labels ≠ [])
include hlabels

/-- A row of six boxes sticks out on both sides, by the same amount. -/
theorem row_on_iff (h : p.orientation = .horizontal) :
    (∀ i < p.labels.length, ((ProcessFrame.of p Settings.standard).area i).On 800 400) ↔
      p.labels.length ≤ 5 := by
  rw [of_standard_row h]
  calc _ ↔ ∀ i < p.labels.length, 0 ≤ 420 - (p.labels.length : α) * 80 + (i : α) * (120 + 40) ∧
        420 - (p.labels.length : α) * 80 + (i : α) * (120 + 40) + 120 ≤ 800 :=
      forall₂_congr fun i _ => ⟨fun h => ⟨h.left, h.right⟩, fun h =>
        { left := h.1
          right := h.2
          top := show (0 : α) ≤ 150 by norm_num
          bottom := show (150 : α) + 80 ≤ 400 by norm_num }⟩
    _ ↔ _ := within_iff (List.length_pos_of_ne_nil hlabels) (by norm_num)
    _ ↔ p.labels.length ≤ 5 := by
      refine iff_le_of_cast (α := α) (fun h => ?_) fun h => ?_
      · push_cast at h
        exact ⟨by linarith, by linarith⟩
      · push_cast
        linarith [h.1]

theorem column_on_iff (h : p.orientation = .vertical) :
    (∀ i < p.labels.length, ((ProcessFrame.of p Settings.standard).area i).On 800 400) ↔
      p.labels.length ≤ 4 := by
  rw [of_standard_column h]
  calc _ ↔ ∀ i < p.labels.length, 0 ≤ 215 - (p.labels.length : α) * 45 + (i : α) * (60 + 30) ∧
        215 - (p.labels.length : α) * 45 + (i : α) * (60 + 30) + 60 ≤ 400 :=
      forall₂_congr fun i _ => ⟨fun h => ⟨h.top, h.bottom⟩, fun h =>
        { left := show (0 : α) ≤ 300 by norm_num
          right := show (300 : α) + 200 ≤ 800 by norm_num
          top := h.1
          bottom := h.2 }⟩
    _ ↔ _ := within_iff (List.length_pos_of_ne_nil hlabels) (by norm_num)
    _ ↔ p.labels.length ≤ 4 := by
      refine iff_le_of_cast (α := α) (fun h => ?_) fun h => ?_
      · push_cast at h
        exact ⟨by linarith, by linarith⟩
      · push_cast
        linarith [h.1]

/-- Five boxes fit into a row, and four into a column. -/
theorem processBoxes_on_iff [Written α] (t : Theme α) :
    (∀ a ∈ (processLayout p t Settings.standard).diagram.boxes, a.On 800 400) ↔
      p.labels.length ≤ match p.orientation with | .horizontal => 5 | .vertical => 4 := by
  rw [boxes_processLayout hlabels, List.forall_mem_map]
  simp only [List.mem_range]
  cases h : p.orientation with
  | horizontal => exact row_on_iff hlabels h
  | vertical => exact column_on_iff hlabels h

end Process

/-! ## Comparison charts -/

section Comparison

variable (left right : Series α) (count : Nat)

theorem comparisonFrame_standard :
    ComparisonFrame.of left right count Settings.standard =
      { plot := ⟨60, 60, 680, 380⟩, centerX := 400, halfExtent := 320
        maxValue := scaleMax (left.amounts ++ right.amounts), groupHeight := 70
        startY := 270 - (count : α) * 55 } := by
  have hplot : plotArea ((Settings.standard : Settings α).canvas .comparison) Settings.standard.margin =
      ⟨60, 60, 680, 380⟩ := plotArea_standard
  have hcenter : (60 : α) + 680 / 2 = 400 := by norm_num
  have hextent : max ((680 : α) / 2 - 20) 0 = 320 := by norm_num
  have hheight : (2 : α) * 30 + 10 = 70 := by norm_num
  have hstart : (60 : α) + 380 / 2 - ((count : α) * 70 + ((count : α) - 1) * 40) / 2 =
      270 - (count : α) * 55 := by ring
  unfold ComparisonFrame.of
  simp only
  rw [hplot, greater_eq_max, literal_zero, literal_one]
  show ComparisonFrame.mk ⟨60, 60, 680, 380⟩ (60 + 680 / 2 : α) (max (680 / 2 - 20) 0)
    (scaleMax (left.amounts ++ right.amounts)) (2 * 30 + 10)
    (60 + 380 / 2 - (count * (2 * 30 + 10) + (count - 1) * 40) / 2) = _
  rw [hheight, hstart, hcenter, hextent]

variable {left right}

/-- A bar is not longer than its half of the plot if its amount does not exceed the greatest one. -/
theorem length_bounds {value : α} (h : value ≤ scaleMax (left.amounts ++ right.amounts)) :
    0 ≤ (ComparisonFrame.of left right count Settings.standard).length value ∧
      (ComparisonFrame.of left right count Settings.standard).length value ≤ 320 := by
  have hratio : value / scaleMax (left.amounts ++ right.amounts) ≤ 1 :=
    (div_le_one (scaleMax_pos _)).2 h
  rw [comparisonFrame_standard]
  unfold ComparisonFrame.length
  rw [greater_eq_max, literal_zero]
  refine ⟨mul_nonneg (le_max_right _ _) (by norm_num), ?_⟩
  exact mul_le_of_le_one_left (by norm_num) (max_le hratio zero_le_one)

/-- No entry of the two series exceeds the greatest amount, and neither does a missing one. -/
theorem value_le_scaleMax {d : Series α} (hd : d = left ∨ d = right) (j : Nat) :
    (d.entries[j]?.map Entry.amount).getD 0 ≤ scaleMax (left.amounts ++ right.amounts) := by
  refine entry_le_scaleMax (fun x hx => List.mem_append.2 ?_) j
  rcases hd with rfl | rfl
  · exact .inl hx
  · exact .inr hx

variable (p : Plan α) (t : Theme α)

/-- The place of a bar from top to bottom depends on its label, and the one from left to right on its
    amount. -/
theorem area_bar (d : Series α) (side j : Nat) :
    ((ComparisonFrame.of left right count Settings.standard).bar p t
      (Settings.standard : Settings α).comparison d side j).area =
    let length := (ComparisonFrame.of left right count Settings.standard).length
      ((d.entries[j]?.map Entry.amount).getD 0)
    ⟨if side = 0 then 400 - length else 400, 260 - (count : α) * 55 + (j : α) * (70 + 40), length, 30⟩ := by
  have hy : 270 - (count : α) * 55 + (j : α) * (70 + 40) - 10 =
      260 - (count : α) * 55 + (j : α) * (70 + 40) := by ring
  unfold ComparisonFrame.bar Bar.area ComparisonFrame.groupY
  rw [comparisonFrame_standard, literal_zero, ← hy]
  rfl

/-- A bar is on the canvas if it is there from top to bottom. -/
theorem bar_on_iff {d : Series α} (hd : d = left ∨ d = right) (side j : Nat) :
    ((ComparisonFrame.of left right count Settings.standard).bar p t
      (Settings.standard : Settings α).comparison d side j).area.On 800 500 ↔
    0 ≤ 260 - (count : α) * 55 + (j : α) * (70 + 40) ∧
      260 - (count : α) * 55 + (j : α) * (70 + 40) + 30 ≤ 500 := by
  obtain ⟨hshort, hlong⟩ := length_bounds count (value_le_scaleMax hd j)
  rw [area_bar]
  refine ⟨fun h => ⟨h.top, h.bottom⟩, fun h => ?_⟩
  refine { left := ?_, right := ?_, top := h.1, bottom := h.2 }
  · show 0 ≤ ite _ _ _
    split <;> linarith
  · show ite _ _ _ + _ ≤ (800 : α)
    split <;> linarith

variable {p}

theorem exists_boxes_comparisonLayout [Written α] {s : Settings α}
    (h : (comparisonLayout p t s).isPlaceholder = false) :
    ∃ left right, p.labels ≠ [] ∧
      (comparisonLayout p t s).diagram.boxes = (List.range p.labels.length).flatMap fun i =>
        [((ComparisonFrame.of left right p.labels.length s).bar p t s.comparison left 0 i).area,
         ((ComparisonFrame.of left right p.labels.length s).bar p t s.comparison right 1 i).area] := by
  unfold comparisonLayout at h ⊢
  simp only at h ⊢
  cases hleft : p.filled? 1 with
  | none =>
    rw [hleft] at h
    cases h
  | some left =>
    cases hright : p.filled? 2 with
    | none =>
      rw [hleft, hright] at h
      cases h
    | some right =>
      rw [hleft, hright] at h
      simp only at h ⊢
      split at h
      case isTrue => cases h
      case isFalse hlabels =>
        rw [if_neg hlabels]
        refine ⟨left, right, by simpa using hlabels, ?_⟩
        show List.flatMap _ (List.map _ _) = _
        rw [List.flatMap_def, List.flatMap_def]
        exact congrArg List.flatten (map_map_zipIdx_snd fun _ _ _ => rfl)

/-- Four pairs of bars fit between the upper and the lower edge. -/
theorem comparisonBoxes_on_iff [Written α]
    (h : (comparisonLayout p t Settings.standard).isPlaceholder = false) :
    (∀ a ∈ (comparisonLayout p t Settings.standard).diagram.boxes, a.On 800 500) ↔
      p.labels.length ≤ 4 := by
  obtain ⟨left, right, hlabels, hboxes⟩ := exists_boxes_comparisonLayout t h
  rw [hboxes]
  calc _ ↔ ∀ i < p.labels.length,
        0 ≤ 260 - (p.labels.length : α) * 55 + (i : α) * (70 + 40) ∧
          260 - (p.labels.length : α) * 55 + (i : α) * (70 + 40) + 30 ≤ 500 := by
        simp only [List.forall_mem_flatMap, List.mem_range, List.forall_mem_cons, List.not_mem_nil,
          IsEmpty.forall_iff, implies_true, and_true]
        refine forall₂_congr fun i _ => ?_
        rw [bar_on_iff _ _ _ (.inl rfl), bar_on_iff _ _ _ (.inr rfl), and_self]
    _ ↔ _ := within_iff (List.length_pos_of_ne_nil hlabels) (by norm_num)
    _ ↔ p.labels.length ≤ 4 := by
      refine iff_le_of_cast (α := α) (fun h => ?_) fun h => ?_
      · push_cast at h
        exact ⟨by linarith, by linarith⟩
      · push_cast
        linarith [h.1]

end Comparison

/-! ## The view box -/

/-- The canvas of a layout is that of its kind, with or without a chart. -/
theorem size_ofPlan {α : Type} [Scale α] [Written α] (p : Plan α) (t : Theme α) (s : Settings α) :
    (ofPlan p t s).width = (s.canvas p.kind).width ∧
      (ofPlan p t s).height = (s.canvas p.kind).height := by
  unfold ofPlan barLayout lineLayout pieLayout radarLayout processLayout timelineLayout comparisonLayout
  cases p.kind <;> simp only <;> (repeat' split) <;> exact ⟨rfl, rfl⟩

section ViewBox

variable [Written α]

/-- The view box of a drawing is the canvas of its layout. -/
theorem viewBox_mem (p : Plan α) (t : Theme α) :
    ⟨"viewBox", "0 0 " ++ Written.full (ofPlan p t Settings.standard).width ++ " " ++
        Written.full (ofPlan p t Settings.standard).height⟩ ∈
      (Drawing.ofLayout t (ofPlan p t Settings.standard)).attributes := by
  -- A drawing has an extent of at least one, which the standard canvases exceed.
  have hextent (kind : Kind) :
      1 ≤ (Canvas.standard kind : Canvas α).width ∧ 1 ≤ (Canvas.standard kind : Canvas α).height := by
    cases kind <;> exact ⟨Nat.one_le_cast.2 (by decide), Nat.one_le_cast.2 (by decide)⟩
  obtain ⟨hwidth, hheight⟩ := size_ofPlan p t Settings.standard
  have hw : 1 ≤ (ofPlan p t Settings.standard).width := hwidth.symm ▸ (hextent p.kind).1
  have hh : 1 ≤ (ofPlan p t Settings.standard).height := hheight.symm ▸ (hextent p.kind).2
  unfold Drawing.ofLayout
  simp only
  rw [greater_eq_max, greater_eq_max, literal_one, max_eq_left hw, max_eq_left hh]
  simp

/-- How many labels have their boxes on a canvas of the standard size. -/
def Plan.capacity {α : Type} (p : Plan α) : Nat :=
  match p.kind, p.orientation with
  | .process, .horizontal => 5
  | _, _ => 4

variable {p : Plan α} (t : Theme α)

/-- The bound for the canvas of the layout; the view box of the drawing is that canvas. -/
theorem holdsBoxes_iff (hkind : p.kind = .process ∨ p.kind = .comparison)
    (h : (ofPlan p t Settings.standard).isPlaceholder = false) :
    HoldsBoxes (ofPlan p t Settings.standard) ↔ p.labels.length ≤ p.capacity := by
  obtain ⟨hwidth, hheight⟩ := size_ofPlan p t Settings.standard
  unfold HoldsBoxes Plan.capacity
  rw [hwidth, hheight]
  unfold ofPlan at h ⊢
  rcases hkind with hkind | hkind
  · rw [hkind] at h ⊢
    have hlabels : p.labels ≠ [] := by
      intro hnil
      unfold processLayout at h
      rw [hnil] at h
      cases h
    refine (processBoxes_on_iff hlabels t).trans ?_
    cases p.orientation <;> exact Iff.rfl
  · rw [hkind] at h ⊢
    exact comparisonBoxes_on_iff t h

/-- **Steps and bars are in the view box of their drawing exactly up to a number of labels.** -/
theorem boxes_in_viewBox_iff (hkind : p.kind = .process ∨ p.kind = .comparison)
    (h : (ofPlan p t Settings.standard).isPlaceholder = false) :
    ⟨"viewBox", "0 0 " ++ Written.full (ofPlan p t Settings.standard).width ++ " " ++
        Written.full (ofPlan p t Settings.standard).height⟩ ∈
      (Drawing.ofLayout t (ofPlan p t Settings.standard)).attributes ∧
    (HoldsBoxes (ofPlan p t Settings.standard) ↔ p.labels.length ≤ p.capacity) :=
  ⟨viewBox_mem p t, holdsBoxes_iff t hkind h⟩

end ViewBox

/-! ## Columns of steps -/

/-- A process from top to bottom. -/
def Plan.column {α : Type} (labels : List String) : Plan α where
  kind := .process
  title := ""
  orientation := .vertical
  colors := []
  labels := labels
  seriesLabels := []
  scaleLabels := []
  series := []

/-- A column of four steps is on the canvas. -/
theorem boxes_in_viewBox_of_four :
    let _ : Written ℝ := Written.silent ℝ
    (ofPlan (Plan.column ["1", "2", "3", "4"] : Plan ℝ) Theme.classic
      Settings.standard).isPlaceholder = false ∧
    HoldsBoxes (ofPlan (Plan.column ["1", "2", "3", "4"] : Plan ℝ) Theme.classic
      Settings.standard) := by
  let _ : Written ℝ := Written.silent ℝ
  exact ⟨rfl, (boxes_in_viewBox_iff (p := (Plan.column ["1", "2", "3", "4"] : Plan ℝ)) Theme.classic
    (.inl rfl) rfl).2.2 (by decide)⟩

/-- A column of five steps is not. -/
theorem not_holdsBoxes_of_five :
    let _ : Written ℝ := Written.silent ℝ
    (ofPlan (Plan.column ["1", "2", "3", "4", "5"] : Plan ℝ) Theme.classic
      Settings.standard).isPlaceholder = false ∧
    ¬ HoldsBoxes (ofPlan (Plan.column ["1", "2", "3", "4", "5"] : Plan ℝ) Theme.classic
      Settings.standard) := by
  let _ : Written ℝ := Written.silent ℝ
  refine ⟨rfl, fun hholds => ?_⟩
  have hfew := (holdsBoxes_iff (p := (Plan.column ["1", "2", "3", "4", "5"] : Plan ℝ)) Theme.classic
    (.inl rfl) rfl).1 hholds
  exact absurd hfew (by decide)

end Infochart.Layout
