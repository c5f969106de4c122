import Infochart.Proofs.Decimal.Length
import Infochart.Proofs.Json.Amount
import Infochart.Proofs.Json.Collected
import Infochart.Proofs.Property.Written

/-!
# Numbers read back

What is read where a number has been written depends on its shortest decimal alone: one that is an
integer of 64 bits is converted, and any other is a significand of 64 bits that is scaled by one power
of ten (`readDecimal?`). The decimal stands for the number, but the scaling rounds more than once, so
what comes back may be a neighbour; `survives` says of a number that it is not. A list of items is
read back as a list if each of its numbers is (`reread_items`), and every number is but the largest
one (`isSome_readBack?`).
-/

namespace Infochart
namespace Property

open Decimal (Binary Scaled digitsOf ofDigits positional shortest signed withPoint)
open Json (IsItem Literal)

/-- The number that is read where a decimal has been written with all its digits, if one is. -/
def readDecimal? (negative : Bool) (s : Scaled) : Option Float :=
  let whole := s.digits * 10 ^ s.exponent.toNat
  let x :=
    if s.exponent < 0 then Json.scale s.digits s.exponent
    else if whole ≤ 2 ^ 63 ∨ (negative = false ∧ whole < 2 ^ 64) then some (Float.ofNat whole)
    else Json.scale (Json.fill s.digits s.exponent.toNat).1 (Json.fill s.digits s.exponent.toNat).2
  x.map fun x => if negative then -x else x

/-- The number that is read where a number has been written, if one is. Zeros and what is not a finite
    number are written as zero. -/
def readBack? (x : Float) : Option Float :=
  match Binary.ofFloat x with
  | .finite negative m q =>
    if m = 0 then some (Float.ofNat 0) else readDecimal? negative (shortest .up m q)
  | _ => some (Float.ofNat 0)

/-- Whether a number comes back as itself when it is written and read. -/
def survives (x : Float) : Bool :=
  (readBack? x).any (x == ·)

/-! ## Literals -/

/-- The scalar that a literal is read as. -/
def scalar? (l : Literal) : Option Scalar :=
  l.value?.map Scalar.ofData

theorem scalar?_real {l : Literal} (h : l.value? = l.real?.map .real) :
    scalar? l = l.real?.map .number := by
  unfold scalar?
  rw [h, Option.map_map]
  rfl

/-- A whole number as it is read. -/
theorem scalar?_whole (negative : Bool) {d : Nat} (hd : 0 < d) (hlt : d < 2 ^ 64) (k : Nat) :
    scalar? ⟨negative, digitsOf (d * 10 ^ k), none, none⟩ =
      (readDecimal? negative ⟨d, k⟩).map .number := by
  have hpos : 0 < d * 10 ^ k := Nat.mul_pos hd (Nat.pow_pos (by decide))
  have hnot : ¬ (k : Int) < 0 := by omega
  have hexp : (k : Int).toNat = k := Int.toNat_natCast k
  unfold readDecimal?
  simp only [hexp, if_neg hnot]
  by_cases hfit : d * 10 ^ k ≤ 2 ^ 63 ∨ (negative = false ∧ d * 10 ^ k < 2 ^ 64)
  · -- An integer of 64 bits, with a sign or without.
    rw [if_pos hfit]
    unfold scalar? Json.Literal.value?
    simp only [Decimal.ofDigits_digitsOf, and_self, if_true]
    cases negative with
    | false =>
      have hsmall : d * 10 ^ k < Nat.pow 2 64 := by
        show d * 10 ^ k < 2 ^ 64
        omega
      have hsign : ¬ ((d * 10 ^ k : Nat) : Int) < 0 := by omega
      rw [if_pos ⟨rfl, hsmall⟩, Option.map_some, Option.map_some, Option.map_some]
      unfold Scalar.ofData
      simp only [if_neg hsign, Int.natAbs_natCast, Bool.false_eq_true, if_false]
    | true =>
      have hsmall : d * 10 ^ k ≤ Nat.pow 2 63 := by
        show d * 10 ^ k ≤ 2 ^ 63
        rcases hfit with h | ⟨h, -⟩
        · exact h
        · cases h
      have hsign : -((d * 10 ^ k : Nat) : Int) < 0 := by omega
      rw [if_neg (by simp), if_pos ⟨rfl, hpos, hsmall⟩, Option.map_some, Option.map_some,
        Option.map_some]
      unfold Scalar.ofData
      simp only [if_pos hsign, Int.natAbs_neg, Int.natAbs_natCast, if_true]
  · -- Anything longer is scaled, with as many of its zeros as fit.
    rw [if_neg hfit]
    have hreal : (⟨negative, digitsOf (d * 10 ^ k), none, none⟩ : Literal).value? =
        (⟨negative, digitsOf (d * 10 ^ k), none, none⟩ : Literal).real?.map .real := by
      unfold Json.Literal.value?
      simp only [Decimal.ofDigits_digitsOf, and_self, if_true]
      rw [if_neg, if_neg]
      · rintro ⟨-, -, hsmall⟩
        exact hfit (.inl hsmall)
      · rintro ⟨hsign, hsmall⟩
        exact hfit (.inr ⟨hsign, hsmall⟩)
    rw [scalar?_real hreal, Json.real?_zeros negative hd hlt]

/-- A number with a point as it is read. -/
theorem scalar?_point (negative : Bool) {d places : Nat} {ds fs : List Char} (hp : 0 < places)
    (hds : ∀ c ∈ ds, c.isDigit = true) (hfs : ∀ c ∈ fs, c.isDigit = true)
    (hall : ofDigits (ds ++ fs) = d) (hlt : d < 2 ^ 64) (hlen : fs.length = places) :
    scalar? ⟨negative, ds, some fs, none⟩ = (readDecimal? negative ⟨d, -places⟩).map .number := by
  have hreal : (⟨negative, ds, some fs, none⟩ : Literal).value? =
      (⟨negative, ds, some fs, none⟩ : Literal).real?.map .real := by
    unfold Json.Literal.value?
    simp only [reduceCtorEq, false_and, if_false]
  have hneg : -(places : Int) < 0 := by omega
  rw [scalar?_real hreal, Json.real?_point negative hds hfs (by rwa [hall]), hall, hlen]
  unfold readDecimal?
  simp only [if_pos hneg]

/-- **A decimal of 64 bits as it is written and read.** -/
theorem exists_literal_decimal (negative : Bool) {s : Scaled} (hd : 0 < s.digits)
    (hlt : s.digits < 2 ^ 64) :
    ∃ l, IsItem (signed negative (positional s)) (.number l) ∧
      scalar? l = (readDecimal? negative s).map .number := by
  obtain ⟨d, k⟩ := s
  rcases Int.lt_or_le k 0 with hneg | hpos
  · obtain ⟨places, rfl⟩ := Int.exists_eq_neg_ofNat (Int.le_of_lt hneg)
    have hp : 0 < places := by omega
    obtain ⟨ws, fs, heq, hws, hlen, hfs, hall⟩ := Json.withPoint_eq hd hp
    have hne : fs ≠ [] := List.ne_nil_of_length_pos (by omega)
    have htext : positional ⟨d, -places⟩ = ws ++ '.' :: fs := by
      have hplaces : (-(-(places : Int))).toNat = places := by omega
      unfold positional
      simp only [if_neg (Int.not_le.2 hneg), hplaces, heq]
    rw [htext]
    exact ⟨_, Json.isItem_fraction negative hws hne hfs,
      scalar?_point negative hp hws.isDigit hfs hall hlt hlen⟩
  · obtain ⟨n, rfl⟩ := Int.eq_ofNat_of_zero_le hpos
    rw [Decimal.positional_of_nonneg hd hpos]
    exact ⟨_, Json.isItem_whole negative (Json.isWhole_digitsOf _), scalar?_whole negative hd hlt n⟩

/-! ## Numbers -/

/-- **A number as it is written and read.** -/
theorem exists_literal_readBack (x : Float) :
    ∃ l, IsItem (Decimal.amount x).toList (.number l) ∧
      scalar? l = (readBack? x).map .number := by
  have hzero : IsItem "0".toList (.number ⟨false, ['0'], none, none⟩) :=
    Json.isItem_whole false (Json.isWhole_digitsOf 0)
  unfold readBack?
  cases hx : Binary.ofFloat x with
  | undefined =>
    rw [Decimal.amount_of_not_isFinite (by unfold Decimal.isFinite; rw [hx])]
    exact ⟨_, hzero, rfl⟩
  | infinite negative =>
    rw [Decimal.amount_of_not_isFinite (by unfold Decimal.isFinite; rw [hx])]
    exact ⟨_, hzero, rfl⟩
  | finite negative m q =>
    rcases Nat.eq_zero_or_pos m with rfl | hm
    · rw [Decimal.amount_of_zero hx]
      exact ⟨_, hzero, rfl⟩
    · have hc := Binary.canonical hm hx
      rw [Decimal.amount_of_finite hm hx]
      simp only [if_neg (Nat.pos_iff_ne_zero.1 hm)]
      exact exists_literal_decimal negative (Decimal.shortest_digits_pos .up hc)
        (Decimal.shortest_digits_lt .up hc)

/-- **Every number but the largest is read back as a number.** -/
theorem isSome_readBack? (x : Float) : (readBack? x).isSome = !Decimal.isLargest x := by
  by_cases hfinite : Decimal.isFinite x = true
  · obtain ⟨l, hl, hvalue⟩ := exists_literal_readBack x
    obtain ⟨l', hl', hlargest⟩ := Json.exists_literal hfinite
    cases hl.form_unique hl'
    have hsome := congrArg Option.isSome hvalue
    unfold scalar? at hsome
    rw [Option.isSome_map, Option.isSome_map] at hsome
    rw [← hsome, hlargest]
  · -- What is not a finite number is written as zero.
    unfold Decimal.isFinite at hfinite
    unfold readBack? Decimal.isLargest
    cases hx : Binary.ofFloat x with
    | undefined => rfl
    | infinite negative => rfl
    | finite negative m q =>
      rw [hx] at hfinite
      exact absurd rfl hfinite

/-! ## Items -/

/-- The scalar that is read where a scalar has been written, if one is. -/
def Scalar.readBack? : Scalar → Option Scalar
  | .text s => some (.text s)
  | .number x => (Property.readBack? x).map .number

theorem Scalar.exists_form (a : Scalar) :
    ∃ f, IsItem a.item f ∧ f.value?.map Scalar.ofData = a.readBack? := by
  cases a with
  | text s =>
    obtain ⟨f, v, hf, hv, hs⟩ := Scalar.readsAs_text s
    refine ⟨f, hf, ?_⟩
    rw [hv, Option.map_some, hs]
    rfl
  | number x =>
    obtain ⟨l, hl, hvalue⟩ := exists_literal_readBack x
    exact ⟨.number l, hl, hvalue⟩

theorem exists_forms (items : List Scalar) :
    ∃ fs, List.Forall₂ IsItem (items.map Scalar.item) fs ∧
      (Json.itemValues? fs).map (·.map Scalar.ofData) = items.mapM Scalar.readBack? := by
  induction items with
  | nil => exact ⟨[], .nil, rfl⟩
  | cons a r ih =>
    obtain ⟨f, hf, hvalue⟩ := a.exists_form
    obtain ⟨fs, hfs, hvalues⟩ := ih
    refine ⟨f :: fs, .cons hf hfs, ?_⟩
    rw [List.mapM_cons, ← hvalue, ← hvalues]
    cases hv : f.value? with
    | none => simp [Json.itemValues?, hv]
    | some v =>
      cases hvs : Json.itemValues? fs with
      | none => simp [Json.itemValues?, hv, hvs]
      | some vs => simp [Json.itemValues?, hv, hvs]

/-- **A list as it is written and read.** It stays a list if each of its items is read back, and is the
    text that has been written otherwise. -/
theorem reread_items (items : List Scalar) :
    reread (.list items) = match items.mapM Scalar.readBack? with
      | some back => .list back
      | none => .text (String.ofList (arrayText items)) := by
  obtain ⟨fs, hfs, hvalues⟩ := exists_forms items
  have hdecoded : decodeArray? (arrayText items) = items.mapM Scalar.readBack? :=
    (decodeArray?_eq hfs).trans hvalues
  have hreread := reread_arrayText items
  rw [hdecoded] at hreread
  exact hreread

end Property
end Infochart
