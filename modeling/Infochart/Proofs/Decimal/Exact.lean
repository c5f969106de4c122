import Infochart.Proofs.Decimal.Rounding

/-!
# Integers among the binary numbers

An integer of at most 53 bits is a binary number: its significand is the integer with its leading bit
moved to the front. `ofFloat_ofInt` says so for the conversion that the readers of numbers use, and
`ofFloat_of_beq_ofInt` for every number that compares equal to such an integer.

The conversion goes through an integer of 64 bits and a product with one. Neither drops anything here, and
each is followed through the rounding that ends it to see that.
-/

namespace Infochart
namespace Decimal

open Float.Model (UnpackedFloat Format totalExponent)
open Float.Model.UnpackedFloat

/-! ## Natural numbers -/

theorem two_pow_le_shifted {n : Nat} (hn : 0 < n) (h : n < 2 ^ 53) :
    2 ^ 52 ≤ n * 2 ^ (52 - n.log2) ∧ n * 2 ^ (52 - n.log2) < 2 ^ 53 := by
  have hne : n ≠ 0 := Nat.pos_iff_ne_zero.1 hn
  have hlog : n.log2 < 53 := (Nat.log2_lt hne).2 h
  have hlow := Nat.log2_self_le hne
  have hhigh := Nat.lt_log2_self (n := n)
  have hpos := Nat.two_pow_pos (52 - n.log2)
  constructor
  · calc 2 ^ 52 = 2 ^ n.log2 * 2 ^ (52 - n.log2) := by
          rw [← Nat.pow_add]
          congr 1
          omega
      _ ≤ n * 2 ^ (52 - n.log2) := Nat.mul_le_mul_right _ hlow
  · calc n * 2 ^ (52 - n.log2) < 2 ^ (n.log2 + 1) * 2 ^ (52 - n.log2) :=
          Nat.mul_lt_mul_of_pos_right hhigh hpos
      _ = 2 ^ 53 := by
          rw [← Nat.pow_add]
          congr 1
          omega

/-- Rounding moves the leading bit to the front and drops nothing. -/
theorem round_nat {n : Nat} (hn : 0 < n) (h : n < 2 ^ 53) (hm : 0 < n * 2 ^ (52 - n.log2)) :
    UnpackedFloat.round Format.binary64 .positive n 0 =
      .finite .positive (n * 2 ^ (52 - n.log2)) (n.log2 - 52) hm := by
  obtain ⟨hlow, hhigh⟩ := two_pow_le_shifted hn h
  have hlog : n.log2 < 53 := (Nat.log2_lt (Nat.pos_iff_ne_zero.1 hn)).2 h
  have htarget : Format.binary64.targetExponent (totalExponent n 0) = (n.log2 : Int) - 52 := by
    show max ((n.log2 : Int) + 1 + 0 - 53) (-1074) = n.log2 - 52
    omega
  have hshift : (0 - ((n.log2 : Int) - 52)).toNat = 52 - n.log2 := by omega
  have hexp : (0 : Int) - ((52 - n.log2 : Nat) : Int) + (0 : Nat) = n.log2 - 52 := by omega
  have hround := roundWithAccuracy_exact .positive (e := 0 - ((52 - n.log2 : Nat) : Int)) 0 hm
    hlow hhigh (by omega)
  rw [Nat.pow_zero, Nat.mul_one, hexp] at hround
  have hdef : UnpackedFloat.round Format.binary64 .positive n 0 =
      roundWithAccuracy Format.binary64 .positive
        (n <<< (0 - Format.binary64.targetExponent (totalExponent n 0)).toNat)
        (0 - ((0 - Format.binary64.targetExponent (totalExponent n 0)).toNat : Int)) .exact := rfl
  rw [hdef, htarget, hshift, Nat.shiftLeft_eq]
  exact hround

theorem ofFloat_toFloat {n : Nat} (hn : 0 < n) (h : n < 2 ^ 53) :
    Binary.ofFloat n.toUInt64.toFloat = .finite false (n * 2 ^ (52 - n.log2)) (n.log2 - 52) := by
  obtain ⟨hlow, hhigh⟩ := two_pow_le_shifted hn h
  have hm : 0 < n * 2 ^ (52 - n.log2) := by omega
  have hlog : n.log2 < 53 := (Nat.log2_lt (Nat.pos_iff_ne_zero.1 hn)).2 h
  have hnat : n.toUInt64.toNat = n := by
    show n % 2 ^ 64 = n
    omega
  have hcompare : compare (n : Int) 0 = .gt := by
    rw [Int.compare_eq_gt]
    omega
  -- The conversion packs a normalized number, and what it normalizes is the integer itself.
  have hmodel : n.toUInt64.toFloat =
      .ofModel (.pack (UnpackedFloat.normalize Format.binary64
        ((n.toUInt64.toNat : Nat) : Int) 0 .positive)) := rfl
  rw [hmodel, hnat]
  unfold UnpackedFloat.normalize
  simp only [hcompare, Int.toNat_natCast]
  rw [round_nat hn h hm]
  exact ofFloat_pack .positive hm hlow hhigh (by omega) (by omega)

theorem ofFloat_one : Binary.ofFloat (Float.ofBits 0x3FF0000000000000) =
    .finite false (2 ^ 52) (-52) := by
  decide +kernel

/-- The product with a one changes nothing. -/
theorem ofFloat_mul_one {x : Float} {m : Nat} {e : Int} (hlow : 2 ^ 52 ≤ m) (hhigh : m < 2 ^ 53)
    (helow : -1074 ≤ e) (hehigh : e ≤ 971) (h : Binary.ofFloat x = .finite false m e) :
    Binary.ofFloat (x * Float.ofBits 0x3FF0000000000000) = .finite false m e := by
  have hm : 0 < m := by omega
  have hx := unpack_of_finite hm h
  have hone := unpack_of_finite (by decide) ofFloat_one
  have hmodel : x * Float.ofBits 0x3FF0000000000000 = .ofModel (.pack (mul Format.binary64
      x.toModel.unpack (Float.ofBits 0x3FF0000000000000).toModel.unpack)) := rfl
  -- A one is `2 ^ 52` with the exponent `-52`, so the product has 52 zeros behind it.
  have hround := roundWithAccuracy_exact .positive (e := e + -52) 52 hm hlow hhigh (by omega)
  have hexp : e + -52 + ((52 : Nat) : Int) = e := by omega
  rw [hexp] at hround
  rw [hmodel, hx, hone]
  show Binary.ofFloat (.ofModel (.pack (roundWithAccuracy Format.binary64 .positive (m * 2 ^ 52)
    (e + -52) .exact))) = _
  rw [hround]
  exact ofFloat_pack .positive hm hlow hhigh helow hehigh

theorem ofScientific_eq {n : Nat} (h : n < 2 ^ 53) :
    Float.ofScientific n false 0 = n.toUInt64.toFloat * Float.ofBits 0x3FF0000000000000 := by
  unfold Float.ofScientific
  rw [dif_pos ⟨h, by decide⟩]
  rfl

/-- **A natural number below `2 ^ 53` is a binary number.** -/
theorem ofFloat_ofNat {n : Nat} (hn : 0 < n) (h : n < 2 ^ 53) :
    Binary.ofFloat (Float.ofNat n) = .finite false (n * 2 ^ (52 - n.log2)) (n.log2 - 52) := by
  obtain ⟨hlow, hhigh⟩ := two_pow_le_shifted hn h
  have hlog : n.log2 < 53 := (Nat.log2_lt (Nat.pos_iff_ne_zero.1 hn)).2 h
  have hdef : Float.ofNat n = Float.ofScientific n false 0 := rfl
  rw [hdef, ofScientific_eq h]
  exact ofFloat_mul_one hlow hhigh (by omega) (by omega) (ofFloat_toFloat hn h)

theorem ofFloat_ofNat_top : Binary.ofFloat (Float.ofNat (2 ^ 53)) = .finite false (2 ^ 52) 1 := by
  decide +kernel

theorem ofFloat_ofNat_zero : Binary.ofFloat (Float.ofNat 0) = .finite false 0 (-1074) := by
  decide +kernel

/-- The significand and the exponent of a natural number: its leading bit is moved to the front. The one
    number of 54 bits that counts here is a power of two. -/
inductive Shifted (n : Nat) : Nat → Int → Prop
  | left {j : Nat} (hj : j ≤ 52) (hlow : 2 ^ 52 ≤ n * 2 ^ j) (hhigh : n * 2 ^ j < 2 ^ 53) :
    Shifted n (n * 2 ^ j) (-j)
  | top (h : n = 2 ^ 53) : Shifted n (2 ^ 52) 1

theorem Shifted.bounds {n m : Nat} {q : Int} (h : Shifted n m q) :
    2 ^ 52 ≤ m ∧ m < 2 ^ 53 ∧ -52 ≤ q ∧ q ≤ 1 := by
  cases h with
  | left hj hlow hhigh => exact ⟨hlow, hhigh, by omega, by omega⟩
  | top => decide

theorem Shifted.dyadic_eq {n m : Nat} {q : Int} (h : Shifted n m q) : dyadic m q = n := by
  cases h with
  | @left j hj hlow hhigh =>
    rw [← dyadic_add, Int.add_left_neg]
    unfold dyadic
    rw [zpow_zero, mul_one]
  | top h =>
    subst h
    unfold dyadic
    norm_num

theorem exists_shifted {n : Nat} (hn : 0 < n) (h : n ≤ 2 ^ 53) :
    ∃ m q, Shifted n m q ∧ Binary.ofFloat (Float.ofNat n) = .finite false m q := by
  rcases Nat.lt_or_eq_of_le h with hlt | rfl
  · obtain ⟨hlow, hhigh⟩ := two_pow_le_shifted hn hlt
    have hlog : n.log2 < 53 := (Nat.log2_lt (Nat.pos_iff_ne_zero.1 hn)).2 hlt
    have hexp : (n.log2 : Int) - 52 = -((52 - n.log2 : Nat) : Int) := by omega
    refine ⟨_, _, .left (j := 52 - n.log2) (by omega) hlow hhigh, ?_⟩
    rw [ofFloat_ofNat hn hlt, hexp]
  · exact ⟨_, _, .top rfl, ofFloat_ofNat_top⟩

/-! ## Integers -/

/-- Turning the sign changes nothing else. -/
theorem ofFloat_neg {x : Float} {b : Bool} {m : Nat} {e : Int} (hlow : 2 ^ 52 ≤ m)
    (hhigh : m < 2 ^ 53) (helow : -1074 ≤ e) (hehigh : e ≤ 971)
    (h : Binary.ofFloat x = .finite b m e) : Binary.ofFloat (-x) = .finite (!b) m e := by
  have hm : 0 < m := by omega
  have hx := unpack_of_finite hm h
  have hmodel : -x = .ofModel (.pack (neg x.toModel.unpack)) := rfl
  have hsign : isNegative (-signOf b) = !b := by
    cases b <;> rfl
  rw [hmodel, hx]
  show Binary.ofFloat (.ofModel (.pack (.finite (-signOf b) m e hm))) = _
  rw [ofFloat_pack _ hm hlow hhigh helow hehigh, hsign]

/-- **An integer of at most 53 bits is a binary number.** -/
theorem ofFloat_ofInt {n : Int} (hn : n ≠ 0) (h : n.natAbs ≤ 2 ^ 53) :
    ∃ m q, Shifted n.natAbs m q ∧
      Binary.ofFloat (Float.ofInt n) = .finite (decide (n < 0)) m q := by
  obtain ⟨m, q, hs, hf⟩ := exists_shifted (Int.natAbs_pos.2 hn) h
  refine ⟨m, q, hs, ?_⟩
  cases n with
  | ofNat k =>
    have hsign : decide (Int.ofNat k < 0) = false := by simp
    rw [hsign]
    exact hf
  | negSucc k =>
    obtain ⟨hlow, hhigh, helow, hehigh⟩ := hs.bounds
    have hsign : decide (Int.negSucc k < 0) = true := by simp
    rw [hsign]
    exact ofFloat_neg hlow hhigh (by omega) (by omega) hf

/-! ## Equal numbers -/

/-- Numbers compare by exponents and then by significands, so equal ones agree in both. -/
theorem eq_of_compare_eq {e e' : Int} {m m' : Nat}
    (h : (compare e' e).then (compare m' m) = .eq) : e' = e ∧ m' = m := by
  rw [Ordering.then_eq_eq] at h
  exact ⟨Std.compare_eq_iff_eq.1 h.1, Nat.compare_eq_eq.1 h.2⟩

/-- What compares equal to a zero is a zero. -/
theorem eq_zero_of_compare {u : UnpackedFloat} {s : Sign}
    (h : u.compare (.zero s) = some .eq) : ∃ t, u = .zero t := by
  cases u with
  | zero t => exact ⟨t, rfl⟩
  | notANumber => cases h
  | infinity t => cases t <;> cases h
  | finite t m e hm => cases t <;> cases h

/-- What compares equal to another finite number is that number. -/
theorem eq_finite_of_compare {u : UnpackedFloat} {s : Sign} {m : Nat} {e : Int} {hm : 0 < m}
    (h : u.compare (.finite s m e hm) = some .eq) : u = .finite s m e hm := by
  cases u with
  | zero t => cases s <;> cases h
  | notANumber => cases h
  | infinity t => cases t <;> cases h
  | finite t m' e' hm' =>
    have hsame : t = s ∧ e' = e ∧ m' = m := by
      cases t with
      | positive =>
        cases s with
        | positive => exact ⟨rfl, eq_of_compare_eq (Option.some.inj h)⟩
        | negative => cases h
      | negative =>
        cases s with
        | positive => cases h
        | negative =>
          -- Below zero the larger magnitude is the smaller number.
          have hswap : ((compare e' e).then (compare m' m)).swap = .eq := Option.some.inj h
          exact ⟨rfl, eq_of_compare_eq (Ordering.swap_eq_eq.1 hswap)⟩
    obtain ⟨rfl, rfl, rfl⟩ := hsame
    rfl

/-- Two numbers are equal if they are the same number or two zeros. -/
theorem ofFloat_of_beq {x y : Float} (h : (x == y) = true) {b : Bool} {m : Nat} {e : Int}
    (hy : Binary.ofFloat y = .finite b m e) :
    ∃ b', Binary.ofFloat x = .finite b' m e ∧ (0 < m → b' = b) := by
  have hcompare : x.toModel.unpack.compare y.toModel.unpack = some .eq := by
    have : (x.toModel.unpack.compare y.toModel.unpack == some .eq) = true := h
    exact eq_of_beq this
  rw [Binary.ofFloat_eq] at hy ⊢
  cases hu : y.toModel.unpack with
  | notANumber =>
    rw [hu] at hy
    cases hy
  | infinity s =>
    rw [hu] at hy
    cases hy
  | zero s =>
    rw [hu] at hy hcompare
    cases hy
    obtain ⟨t, hx⟩ := eq_zero_of_compare hcompare
    rw [hx]
    exact ⟨isNegative t, rfl, fun hm => absurd hm (by decide)⟩
  | finite s m e hm =>
    rw [hu] at hy hcompare
    cases hy
    rw [eq_finite_of_compare hcompare]
    exact ⟨_, rfl, fun _ => rfl⟩

theorem beq_of_ofFloat {x y : Float} {b : Bool} {m : Nat} {e : Int} (hm : 0 < m)
    (hx : Binary.ofFloat x = .finite b m e) (hy : Binary.ofFloat y = .finite b m e) :
    (x == y) = true := by
  have hself : (UnpackedFloat.finite (signOf b) m e hm).compare (.finite (signOf b) m e hm) =
      some .eq := by
    have hcode : (compare e e).then (compare m m) = .eq := by simp
    cases b with
    | false =>
      show some ((compare e e).then (compare m m)) = some .eq
      rw [hcode]
    | true =>
      show some ((compare e e).then (compare m m)).swap = some .eq
      rw [hcode]
      rfl
  show (x.toModel.unpack.compare y.toModel.unpack == some .eq) = true
  rw [unpack_of_finite hm hx, unpack_of_finite hm hy, hself]
  rfl

/-- Zeros of both signs are equal. -/
theorem beq_zero_of_ofFloat {x : Float} {b : Bool} {e : Int}
    (hx : Binary.ofFloat x = .finite b 0 e) : (x == Float.ofNat 0) = true := by
  have hzero : (Float.ofNat 0).toModel.unpack = .zero .positive := by
    rfl
  show (x.toModel.unpack.compare (Float.ofNat 0).toModel.unpack == some .eq) = true
  rw [hzero]
  rw [Binary.ofFloat_eq] at hx
  cases hu : x.toModel.unpack with
  | notANumber =>
    rw [hu] at hx
    cases hx
  | infinity s =>
    rw [hu] at hx
    cases hx
  | zero s => rfl
  | finite s m e hm =>
    rw [hu] at hx
    cases hx
    exact absurd hm (by decide)

/-- **A number that is equal to an integer of at most 53 bits.** -/
theorem ofFloat_of_beq_ofInt {x : Float} {n : Int} (hn : n.natAbs ≤ 2 ^ 53)
    (h : (x == Float.ofInt n) = true) :
    (n = 0 ∧ ∃ b, Binary.ofFloat x = .finite b 0 (-1074)) ∨
      (n ≠ 0 ∧ ∃ m q, Shifted n.natAbs m q ∧ Binary.ofFloat x = .finite (decide (n < 0)) m q) := by
  by_cases h0 : n = 0
  · subst h0
    obtain ⟨b, hb, -⟩ := ofFloat_of_beq h ofFloat_ofNat_zero
    exact .inl ⟨rfl, b, hb⟩
  · obtain ⟨m, q, hs, hf⟩ := ofFloat_ofInt h0 hn
    obtain ⟨b, hb, hsign⟩ := ofFloat_of_beq h hf
    obtain ⟨hlow, -⟩ := hs.bounds
    rw [hsign (by omega)] at hb
    exact .inr ⟨h0, m, q, hs, hb⟩

end Decimal
end Infochart
