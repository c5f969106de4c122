import Mathlib.Algebra.Group.Nat.Defs
import Infochart.Decimal.Numeral
import Infochart.Decimal.Binary

/-!
# The arithmetic behind a binary number

Arithmetic on numbers of 64 bits unpacks its arguments into a sign, a significand and an exponent and
packs its result. `Binary` is read off the bits directly. The two views agree
(`Binary.ofFloat_eq`), and packing keeps what is canonical and sends what is too large to infinity
(`ofFloat_pack`, `ofFloat_pack_overflow`); so what an operation does is said about `Binary` from here
on.
-/

namespace Infochart
namespace Decimal

open Float.Model (UnpackedFloat Format)
open Float.Model.UnpackedFloat (Sign)

/-- Whether a sign is a minus sign. -/
def isNegative : Sign → Bool
  | .negative => true
  | .positive => false

/-- The sign with or without a minus. -/
def signOf (negative : Bool) : Sign :=
  if negative then .negative else .positive

@[simp] theorem signOf_isNegative (s : Sign) : signOf (isNegative s) = s := by
  cases s <;> rfl

namespace Binary

/-- What the three fields of the bits say. -/
def ofFields (negative : Bool) (field fraction : Nat) : Binary :=
  if field = 2047 then
    if fraction = 0 then .infinite negative else .undefined
  else if field = 0 then .finite negative fraction (-1074)
  else .finite negative (2 ^ 52 + fraction) ((field : Int) - 1075)

/-- An unpacked number without the proof that its significand is positive. -/
def ofUnpacked : UnpackedFloat → Binary
  | .notANumber => .undefined
  | .infinity s => .infinite (isNegative s)
  | .zero s => .finite (isNegative s) 0 (-1074)
  | .finite s m e _ => .finite (isNegative s) m e

/-- The significand and the exponent of a number other than zero, as 64 bits hold them: the leading
    bit is there unless the exponent is the smallest one. -/
structure Canonical (m : Nat) (e : Int) : Prop where
  pos : 0 < m
  lt : m < 2 ^ 53
  low : -1074 ≤ e
  high : e ≤ 971
  leading : e = -1074 ∨ 2 ^ 52 ≤ m

end Binary

open Float.Model.UnpackedFloat

/-! ## The fields of the bits -/

theorem toNat_unpackMantissa (b : BitVec Format.binary64.numBits) :
    (unpackMantissa b).toNat = b.toNat % 2 ^ 52 := by
  simp [unpackMantissa]

theorem toNat_unpackExponent (b : BitVec Format.binary64.numBits) :
    (unpackExponent b).toNat = b.toNat / 2 ^ 52 % 2 ^ 11 := by
  simp [unpackExponent, Nat.shiftRight_eq_div_pow]

theorem isNegative_unpackSign (b : BitVec Format.binary64.numBits) :
    isNegative (Sign.ofBitVec (unpackSign b)) = decide (2 ^ 63 ≤ b.toNat) := by
  have h : (unpackSign b).toNat = b.toNat / 2 ^ 63 % 2 := by
    have hshape : unpackSign b = b.extractLsb' 63 1 := rfl
    rw [hshape, BitVec.extractLsb'_toNat, Nat.shiftRight_eq_div_pow]
  have hlt : b.toNat < 2 ^ 64 := b.isLt
  by_cases hb : 2 ^ 63 ≤ b.toNat
  · have hs : unpackSign b ≠ 0#1 := by
      intro h0
      rw [h0] at h
      simp at h
      omega
    have hsign : Sign.ofBitVec (unpackSign b) = .negative := if_neg hs
    rw [hsign, decide_eq_true hb]
    rfl
  · have hs : unpackSign b = 0#1 := by
      apply BitVec.eq_of_toNat_eq
      rw [h]
      simp
      omega
    have hsign : Sign.ofBitVec (unpackSign b) = .positive := if_pos hs
    rw [hsign, decide_eq_false hb]
    rfl

/-- The leading bit that the fraction of a number leaves out. -/
theorem toNat_leading (m : BitVec 52) : (1#1 ++ m).toNat = 2 ^ 52 + m.toNat := by
  have h : (1#1 ++ m).toNat = 1 <<< 52 ||| m.toNat := BitVec.toNat_append ..
  rw [h, ← Nat.shiftLeft_add_eq_or_of_lt m.isLt 1]
  rfl

theorem ofUnpacked_unpack (b : BitVec Format.binary64.numBits) :
    Binary.ofUnpacked (unpack Format.binary64 b) =
      Binary.ofFields (isNegative (Sign.ofBitVec (unpackSign b))) (unpackExponent b).toNat
        (unpackMantissa b).toNat := by
  have htop : unpackExponent b = -1#_ ↔ (unpackExponent b).toNat = 2047 := by
    rw [← BitVec.toNat_inj]
    rfl
  have hbottom : unpackExponent b = 0#_ ↔ (unpackExponent b).toNat = 0 := by
    rw [← BitVec.toNat_inj]
    rfl
  have hfraction : unpackMantissa b = 0#_ ↔ (unpackMantissa b).toNat = 0 := by
    rw [← BitVec.toNat_inj]
    rfl
  unfold unpack Binary.ofFields
  dsimp only
  by_cases h1 : unpackExponent b = -1#_
  · rw [if_pos h1, if_pos (htop.1 h1)]
    by_cases h2 : unpackMantissa b = 0#_
    · rw [if_pos h2, if_pos (hfraction.1 h2)]
      rfl
    · rw [if_neg h2, if_neg fun h => h2 (hfraction.2 h)]
      rfl
  · rw [if_neg h1, if_neg fun h => h1 (htop.2 h)]
    by_cases h3 : unpackExponent b = 0#_
    · rw [if_pos h3, if_pos (hbottom.1 h3)]
      by_cases h2 : unpackMantissa b = 0#_
      · rw [dif_pos h2, hfraction.1 h2]
        rfl
      · rw [dif_neg h2]
        show Binary.finite _ _ (((unpackExponent b).toNat : Int) - 1075 + 1) = _
        rw [hbottom.1 h3]
        rfl
    · rw [if_neg h3, if_neg fun h => h3 (hbottom.2 h)]
      show Binary.finite _ (1#1 ++ unpackMantissa b).toNat _ = _
      rw [toNat_leading]
      rfl

/-- **The two views of a number agree.** -/
theorem Binary.ofFloat_eq (x : Float) : Binary.ofFloat x = Binary.ofUnpacked x.toModel.unpack := by
  have h := ofUnpacked_unpack x.toModel.toBits.toBitVec
  rw [isNegative_unpackSign, toNat_unpackExponent, toNat_unpackMantissa] at h
  exact h.symm

theorem Binary.canonical_of_ofFields {negative n : Bool} {field fraction m : Nat} {e : Int}
    (hfield : field < 2 ^ 11) (hfraction : fraction < 2 ^ 52) (hm : 0 < m)
    (h : Binary.ofFields negative field fraction = .finite n m e) : Binary.Canonical m e := by
  unfold Binary.ofFields at h
  split at h
  · split at h <;> cases h
  split at h
  · cases h
    exact ⟨hm, by omega, by omega, by omega, .inl rfl⟩
  · cases h
    exact ⟨hm, by omega, by omega, by omega, .inr (by omega)⟩

/-- A number other than zero is canonical. -/
theorem Binary.canonical {x : Float} {n : Bool} {m : Nat} {e : Int} (hm : 0 < m)
    (h : Binary.ofFloat x = .finite n m e) : Binary.Canonical m e := by
  refine Binary.canonical_of_ofFields ?_ ?_ hm h
  · exact Nat.mod_lt _ (by decide)
  · exact Nat.mod_lt _ (by decide)

/-- What arithmetic sees of a number other than zero. -/
theorem unpack_of_finite {x : Float} {n : Bool} {m : Nat} {e : Int} (hm : 0 < m)
    (h : Binary.ofFloat x = .finite n m e) : x.toModel.unpack = .finite (signOf n) m e hm := by
  rw [Binary.ofFloat_eq] at h
  cases hu : x.toModel.unpack with
  | notANumber =>
    rw [hu] at h
    cases h
  | infinity s =>
    rw [hu] at h
    cases h
  | zero s =>
    rw [hu] at h
    cases h
    exact absurd hm (by decide)
  | finite s m' e' hm' =>
    rw [hu] at h
    cases h
    rw [signOf_isNegative]

/-! ## Packing -/

theorem unpackSign_packComponents (s : Sign) (e : BitVec Format.binary64.exponentBits)
    (m : BitVec Format.binary64.mantissaBitsWithoutImplicit) :
    unpackSign (packComponents Format.binary64 s e m) = s.toBitVec := by
  -- The sign stands above the 52 bits of the fraction and the 11 bits of the exponent.
  have hshape : unpackSign (packComponents Format.binary64 s e m) =
      (s.toBitVec ++ e ++ m).extractLsb' 63 1 := rfl
  rw [hshape, BitVec.extractLsb'_append_eq_of_le (by decide),
    BitVec.extractLsb'_append_eq_of_le (by decide)]
  cases s <;> rfl

theorem ofFloat_packComponents (s : Sign) (e : BitVec Format.binary64.exponentBits)
    (m : BitVec Format.binary64.mantissaBitsWithoutImplicit) (u : UnpackedFloat)
    (hu : pack Format.binary64 u = packComponents Format.binary64 s e m) :
    Binary.ofFloat (.ofModel (.pack u)) = Binary.ofFields (isNegative s) e.toNat m.toNat := by
  have hs : isNegative (Sign.ofBitVec s.toBitVec) = isNegative s := by
    cases s <;> rfl
  rw [Binary.ofFloat_eq]
  show Binary.ofUnpacked (unpack Format.binary64 (pack Format.binary64 u)) = _
  rw [hu, ofUnpacked_unpack, unpackSign_packComponents, unpackExponent_packComponents,
    unpackMantissa_packComponents, hs]

theorem log2_eq {m k : Nat} (hlow : 2 ^ k ≤ m) (hhigh : m < 2 ^ (k + 1)) : m.log2 = k := by
  have hm : m ≠ 0 := by
    have := Nat.two_pow_pos k
    omega
  exact (Nat.log2_eq_iff hm).2 ⟨hlow, hhigh⟩

/-- **Packing keeps a number with its leading bit.** -/
theorem ofFloat_pack (s : Sign) {m : Nat} {e : Int} (hm : 0 < m) (hlow : 2 ^ 52 ≤ m)
    (hhigh : m < 2 ^ 53) (helow : -1074 ≤ e) (hehigh : e ≤ 971) :
    Binary.ofFloat (.ofModel (.pack (.finite s m e hm))) = .finite (isNegative s) m e := by
  have hlog : m.log2 = 52 := log2_eq hlow hhigh
  have hbias : (e + Format.binary64.exponentBias + Format.binary64.mantissaBitsWithoutImplicit) =
      e + 1075 := by
    show e + 1023 + 52 = e + 1075
    omega
  have hpack : pack Format.binary64 (.finite s m e hm) =
      packComponents Format.binary64 s (BitVec.ofNat _ (e + 1075).toNat) (BitVec.ofNat _ m) := by
    unfold pack
    simp only [hbias, hlog]
    have hfit : ¬ 2 ^ Format.binary64.exponentBits ≤ (e + 1075).toNat + 1 := by
      show ¬ 2048 ≤ (e + 1075).toNat + 1
      omega
    rw [if_neg hfit]
    rfl
  rw [ofFloat_packComponents s _ _ _ hpack]
  have hfield : (BitVec.ofNat Format.binary64.exponentBits (e + 1075).toNat).toNat =
      (e + 1075).toNat := by
    rw [BitVec.toNat_ofNat]
    show (e + 1075).toNat % 2048 = _
    omega
  have hfraction : (BitVec.ofNat Format.binary64.mantissaBitsWithoutImplicit m).toNat =
      m - 2 ^ 52 := by
    rw [BitVec.toNat_ofNat]
    show m % 2 ^ 52 = _
    omega
  -- The leading bit is not stored, and the field of the exponent is neither the first nor the last.
  have hnormal : Binary.ofFields (isNegative s) (e + 1075).toNat (m - 2 ^ 52) =
      .finite (isNegative s) (2 ^ 52 + (m - 2 ^ 52)) (((e + 1075).toNat : Int) - 1075) := by
    unfold Binary.ofFields
    rw [if_neg (by omega), if_neg (by omega)]
  have hm' : 2 ^ 52 + (m - 2 ^ 52) = m := by omega
  have he' : ((e + 1075).toNat : Int) - 1075 = e := by omega
  rw [hfield, hfraction, hnormal, hm', he']

theorem ofFloat_pack_zero (s : Sign) :
    Binary.ofFloat (.ofModel (.pack (.zero s))) = .finite (isNegative s) 0 (-1074) := by
  rw [ofFloat_packComponents s 0#_ 0#_ (.zero s) rfl]
  rfl

/-- A number without a leading bit has the smallest exponent, and is kept as well. -/
theorem ofFloat_pack_small (s : Sign) {m : Nat} (hm : 0 < m) (hsmall : m < 2 ^ 52) :
    Binary.ofFloat (.ofModel (.pack (.finite s m (-1074) hm))) =
      .finite (isNegative s) m (-1074) := by
  have hlog : m.log2 < 52 := (Nat.log2_lt (Nat.pos_iff_ne_zero.1 hm)).2 hsmall
  have hpack : pack Format.binary64 (.finite s m (-1074) hm) =
      packComponents Format.binary64 s 0#_ (BitVec.ofNat _ m) := by
    have hfit : ¬ 2 ^ Format.binary64.exponentBits ≤ ((-1074 : Int) +
        Format.binary64.exponentBias + Format.binary64.mantissaBitsWithoutImplicit).toNat + 1 := by
      decide
    have hshort : ¬ m.log2 + 1 = Format.binary64.mantissaBits := by
      show ¬ m.log2 + 1 = 53
      omega
    unfold pack
    simp only
    rw [if_neg hfit, if_neg hshort]
  have hfraction : (BitVec.ofNat Format.binary64.mantissaBitsWithoutImplicit m).toNat = m := by
    rw [BitVec.toNat_ofNat]
    exact Nat.mod_eq_of_lt hsmall
  rw [ofFloat_packComponents s _ _ _ hpack, hfraction]
  rfl

/-- **Packing sends what is too large to infinity.** -/
theorem ofFloat_pack_overflow (s : Sign) {m : Nat} {e : Int} (hm : 0 < m) (he : 971 < e) :
    Binary.ofFloat (.ofModel (.pack (.finite s m e hm))) = .infinite (isNegative s) := by
  have hpack : pack Format.binary64 (.finite s m e hm) = packedInfinity Format.binary64 s := by
    have hlarge : 2 ^ Format.binary64.exponentBits ≤ (e + Format.binary64.exponentBias +
        Format.binary64.mantissaBitsWithoutImplicit).toNat + 1 := by
      show 2048 ≤ (e + 1023 + 52).toNat + 1
      omega
    unfold pack
    simp only
    rw [if_pos hlarge]
  rw [ofFloat_packComponents s (-1#_) 0 _ hpack]
  rfl

/-- What is packed without being a number. -/
theorem ofFloat_pack_infinity (s : Sign) :
    Binary.ofFloat (.ofModel (.pack (.infinity s))) = .infinite (isNegative s) := by
  rw [ofFloat_packComponents s (-1#_) 0 (.infinity s) rfl]
  rfl

theorem ofFloat_pack_notANumber :
    Binary.ofFloat (.ofModel (.pack .notANumber)) = .undefined := by
  decide +kernel

end Decimal
end Infochart
