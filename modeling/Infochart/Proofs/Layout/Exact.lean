import Mathlib
import Infochart.Layout.Bar

/-!
# Exact numbers

Layouts are stated over any scale. `Exact` is what a scale is whose arithmetic loses nothing: an ordered
field, in which every number is finite and the circle constant is positive. Geometry is a matter of such
numbers, and the real numbers are the ones that are meant.
-/

namespace Infochart.Layout

open Chart (Orientation)

class Exact (α : Type) extends Scale α, Field α, LinearOrder α, IsStrictOrderedRing α where
  isFinite_eq : ∀ x : α, isFinite x = true
  pi_pos : (0 : α) < pi

noncomputable instance : Exact ℝ :=
  { (inferInstance : Field ℝ), (inferInstance : LinearOrder ℝ),
    (inferInstance : IsStrictOrderedRing ℝ) with
    decidableLT := fun x y => inferInstanceAs (Decidable (x < y))
    decidableLE := fun x y => inferInstanceAs (Decidable (x ≤ y))
    isFinite := fun _ => true
    pi := Real.pi
    cos := Real.cos
    sin := Real.sin
    isFinite_eq := fun _ => rfl
    pi_pos := Real.pi_pos }

/-- Numbers that are written as no text at all. How they are written does not move any mark. -/
@[reducible] def Written.silent (α : Type) : Written α where
  amount _ := ""
  rounded _ _ := ""
  full _ := ""
  places _ _ := ""

variable {α : Type} [Exact α]

/-! ## Order and arithmetic

What the arithmetic lemmas ask for most often, so that it need not be searched for among all fields. -/

instance : IsOrderedRing α := IsStrictOrderedRing.toIsOrderedRing

instance : IsOrderedAddMonoid α := IsOrderedRing.toIsOrderedAddMonoid

instance : ZeroLEOneClass α := IsOrderedRing.toZeroLEOneClass

instance : AddLeftMono α := IsOrderedAddMonoid.toAddLeftMono

instance : AddRightMono α := IsOrderedAddMonoid.toAddRightMono

instance : PosMulMono α := IsOrderedRing.toPosMulMono

instance : MulPosMono α := IsOrderedRing.toMulPosMono

/-! ## Literals and choices -/

theorem literal_zero : @OfNat.ofNat α 0 (literal 0) = 0 := Nat.cast_zero

theorem literal_one : @OfNat.ofNat α 1 (literal 1) = 1 := Nat.cast_one

theorem half_eq : (half : α) = 1 / 2 := by
  unfold half
  rw [literal_one]

theorem greater_eq_max (x y : α) : greater x y = max x y := by
  unfold greater
  rcases lt_or_ge y x with h | h
  · rw [if_pos h, max_eq_left h.le]
  · rw [if_neg (not_lt.2 h), if_pos le_rfl, max_eq_right h]

theorem lesser_eq_min (x y : α) : lesser x y = min x y := by
  unfold lesser
  rcases lt_or_ge y x with h | h
  · rw [if_pos h, min_eq_right h.le]
  · rw [if_neg (not_lt.2 h), if_pos le_rfl, min_eq_left h]

/-! ## The least and the greatest amount -/

theorem greatest_eq_max? (xs : List α) : greatest xs = xs.max? := by
  cases xs with
  | nil => rfl
  | cons x r =>
    unfold greatest
    rw [List.max?_cons', funext₂ greater_eq_max]

theorem least_eq_min? (xs : List α) : least xs = xs.min? := by
  cases xs with
  | nil => rfl
  | cons x r =>
    unfold least
    rw [List.min?_cons', funext₂ lesser_eq_min]

theorem le_greatest {x d : α} {xs : List α} (h : x ∈ xs) : x ≤ (greatest xs).getD d := by
  rw [greatest_eq_max?]
  cases hmax : xs.max? with
  | none => exact absurd (List.max?_eq_none_iff.1 hmax) (List.ne_nil_of_mem h)
  | some m => exact (List.max?_le_iff hmax).1 le_rfl x h

theorem least_le {x d : α} {xs : List α} (h : x ∈ xs) : (least xs).getD d ≤ x := by
  rw [least_eq_min?]
  cases hmin : xs.min? with
  | none => exact absurd (List.min?_eq_none_iff.1 hmin) (List.ne_nil_of_mem h)
  | some m => exact (List.le_min?_iff hmin).1 le_rfl x h

/-- What bars are measured by is positive. -/
theorem scaleMax_pos (xs : List α) : 0 < scaleMax xs := by
  unfold scaleMax
  rw [literal_zero, literal_one]
  split
  · split
    case isTrue h => exact h
    case isFalse => exact one_pos
  · exact one_pos

/-- No amount exceeds what bars are measured by. -/
theorem le_scaleMax {x : α} {xs : List α} (h : x ∈ xs) : x ≤ scaleMax xs := by
  have hle : x ≤ (greatest xs).getD 1 := le_greatest h
  unfold scaleMax
  rw [literal_zero, literal_one]
  cases hmax : greatest xs with
  | none =>
    rw [hmax] at hle
    exact hle
  | some m =>
    rw [hmax] at hle
    simp only
    split
    case isTrue => exact hle
    case isFalse hneg => exact hle.trans ((not_lt.1 hneg).trans zero_le_one)

/-- Neither does an entry of a series whose amounts are among them, nor a missing one. -/
theorem entry_le_scaleMax {d : Series α} {xs : List α} (h : ∀ x ∈ d.amounts, x ∈ xs) (j : Nat) :
    (d.entries[j]?.map Entry.amount).getD 0 ≤ scaleMax xs := by
  cases hentry : d.entries[j]? with
  | none => exact (scaleMax_pos xs).le
  | some e => exact le_scaleMax (h _ (List.mem_map_of_mem (List.mem_of_getElem? hentry)))

/-! ## Plots -/

/-- An extent that is cut from below is at least one. -/
theorem across_plotArea_pos (canvas : Canvas α) (margin : α) (o : Orientation) :
    0 < (plotArea canvas margin).across o := by
  unfold plotArea Area.across
  rw [greater_eq_max, greater_eq_max, literal_one]
  cases o <;> exact one_pos.trans_le (le_max_right _ _)

/-- The plot of a canvas that is as wide as most, with the standard margin. -/
theorem plotArea_standard : plotArea (⟨800, 500⟩ : Canvas α) Settings.standard.margin =
    ⟨60, 60, 680, 380⟩ := by
  unfold plotArea
  rw [greater_eq_max, greater_eq_max, literal_one]
  show (⟨60, 60, max (800 - 2 * 60) 1, max (500 - 2 * 60) 1⟩ : Area α) = _
  norm_num

end Infochart.Layout
