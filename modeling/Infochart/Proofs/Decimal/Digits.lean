import Mathlib.Algebra.Group.Nat.Defs
import Infochart.Decimal.Numeral
import Infochart.Decimal.Text

/-!
# Digits of natural numbers

What the digits of a number say when they are read again, and what they look like: they are digits
of ASCII, there is one at least, and the first of them is zero for zero alone. A power of ten behind
a number is a run of zeros behind its digits.

What follows for whole numbers, with a point and a sign, is said for any class of characters that has the
few they are made of (`HasNumerals`). A text that must not have a line feed and one that must not have a
letter ask for different classes, and neither has to go through the ways in which a number is written.
-/

namespace Infochart
namespace Decimal

/-! ## Reading digits -/

theorem ofDigits_eq_ofDigitChars (ds : List Char) : ofDigits ds = Nat.ofDigitChars 10 ds 0 := by
  rw [Nat.ofDigitChars_eq_foldl]
  rfl

theorem ofDigits_append (a b : List Char) :
    ofDigits (a ++ b) = ofDigits a * 10 ^ b.length + ofDigits b := by
  simp only [ofDigits_eq_ofDigitChars]
  rw [Nat.ofDigitChars_append, Nat.ofDigitChars_eq_ofDigitChars_zero, Nat.mul_comm]

theorem ofDigits_singleton (c : Char) : ofDigits [c] = c.toNat - 48 := by
  simp [ofDigits]

@[simp] theorem ofDigits_digitsOf (n : Nat) : ofDigits (digitsOf n) = n := by
  rw [ofDigits_eq_ofDigitChars]
  exact Nat.ofDigitChars_ten_toDigits

theorem ofDigits_replicate_zero (n : Nat) : ofDigits (List.replicate n '0') = 0 := by
  induction n with
  | zero => rfl
  | succ n ih =>
    rw [List.replicate_succ', ofDigits_append, ih, ofDigits_singleton, Nat.zero_mul]
    rfl

/-! ## What digits look like -/

theorem digitsOf_ne_nil (n : Nat) : digitsOf n ≠ [] :=
  Nat.toDigits_ne_nil

theorem isDigit_of_mem_digitsOf {n : Nat} {c : Char} (h : c ∈ digitsOf n) : c.isDigit = true :=
  Nat.isDigit_of_mem_toDigits (by decide) (by decide) h

/-- The digits of a number, from those of its tenth part. -/
theorem digitsOf_ten_mul_add {n d : Nat} (hn : 0 < n) (hd : d < 10) :
    digitsOf (10 * n + d) = digitsOf n ++ [d.digitChar] := by
  unfold digitsOf
  rw [← Nat.toDigits_append_toDigits (by decide) hn hd, Nat.toDigits_of_lt_base hd]

theorem digitsOf_mul_pow {n : Nat} (hn : 0 < n) (k : Nat) :
    digitsOf (n * 10 ^ k) = digitsOf n ++ List.replicate k '0' := by
  induction k with
  | zero => simp
  | succ k ih =>
    have hpos : 0 < n * 10 ^ k := Nat.mul_pos hn (Nat.pow_pos (by decide))
    have hten : n * 10 ^ (k + 1) = 10 * (n * 10 ^ k) + 0 := by
      rw [Nat.pow_succ, ← Nat.mul_assoc, Nat.mul_comm, Nat.add_zero]
    rw [hten, digitsOf_ten_mul_add hpos (by decide), ih, List.append_assoc, List.replicate_succ']
    rfl

theorem digitChar_ne_zero : ∀ d, d < 10 → 0 < d → Nat.digitChar d ≠ '0' := by decide

theorem head?_digitsOf_ne_zero {n : Nat} (hn : 0 < n) : (digitsOf n).head? ≠ some '0' := by
  induction n using Nat.strongRecOn with
  | ind n ih =>
    by_cases hlt : n < 10
    · unfold digitsOf
      rw [Nat.toDigits_of_lt_base hlt, List.head?_cons]
      exact fun h => digitChar_ne_zero n hlt hn (Option.some.inj h)
    · have hn' : n = 10 * (n / 10) + n % 10 := by omega
      have hrest := ih (n / 10) (by omega) (by omega)
      rw [hn', digitsOf_ten_mul_add (by omega) (by omega)]
      -- There is a digit already, so the one put behind does not become the first.
      cases hds : digitsOf (n / 10) with
      | nil => exact absurd hds (digitsOf_ne_nil _)
      | cons d ds =>
        rw [hds] at hrest
        exact hrest

/-- A text without an exponent, for a decimal that is a whole number. -/
theorem positional_of_nonneg {s : Scaled} (hd : 0 < s.digits) (hk : 0 ≤ s.exponent) :
    positional s = digitsOf (s.digits * 10 ^ s.exponent.toNat) := by
  unfold positional
  rw [if_pos hk, digitsOf_mul_pow hd]

/-! ## Characters of a number -/

theorem mem_withPoint {ds : List Char} {places : Nat} {c : Char} (h : c ∈ withPoint ds places) :
    c ∈ ds ∨ c = '0' ∨ c = '.' := by
  have hpadded : ∀ d ∈ List.replicate (places + 1 - ds.length) '0' ++ ds, d ∈ ds ∨ d = '0' := by
    intro d hd
    rcases List.mem_append.1 hd with hd | hd
    · exact .inr (List.eq_of_mem_replicate hd)
    · exact .inl hd
  unfold withPoint at h
  simp only at h
  split at h
  · rcases hpadded c (List.mem_of_mem_take h) with hc | hc
    · exact .inl hc
    · exact .inr (.inl hc)
  · rcases List.mem_append.1 h with h | h
    · rcases hpadded c (List.mem_of_mem_take h) with hc | hc
      · exact .inl hc
      · exact .inr (.inl hc)
    · rcases List.mem_cons.1 h with rfl | h
      · exact .inr (.inr rfl)
      · rcases hpadded c (List.mem_of_mem_drop h) with hc | hc
        · exact .inl hc
        · exact .inr (.inl hc)

theorem mem_positional {s : Scaled} {c : Char} (h : c ∈ positional s) :
    c ∈ digitsOf s.digits ∨ c = '0' ∨ c = '.' := by
  unfold positional at h
  simp only at h
  split at h
  · rcases List.mem_append.1 h with h | h
    · exact .inl h
    · exact .inr (.inl (List.eq_of_mem_replicate h))
  · exact mem_withPoint h

/-- The letters that stand for numbers that are not finite. -/
def nameLetters : List Char := ['N', 'a', 'i', 'n', 'f']

/-- A class of characters that has those of numerals. The digits are asked for as a class of their own, so
    that it does not matter whether they are listed or excluded by what they are not. -/
structure HasNumerals (P : Char → Prop) : Prop where
  digit : ∀ c, c.isDigit = true → P c
  point : P '.'
  sign : P '-'

namespace HasNumerals

variable {P : Char → Prop} (h : HasNumerals P)
include h

theorem of_mem {n : Nat} {c : Char} (hc : c ∈ digitsOf n ∨ c = '0' ∨ c = '.') : P c := by
  rcases hc with hc | rfl | rfl
  · exact h.digit c (isDigit_of_mem_digitsOf hc)
  · exact h.digit '0' rfl
  · exact h.point

theorem signed {text : List Char} (htext : ∀ c ∈ text, P c) (negative : Bool) :
    ∀ c ∈ (String.ofList (signed negative text)).toList, P c := by
  intro c hc
  rw [String.toList_ofList] at hc
  cases negative with
  | false => exact htext c hc
  | true =>
    rcases List.mem_cons.1 hc with rfl | hc
    · exact h.sign
    · exact htext c hc

/-- All ways of writing a number agree on the numbers that are not finite. So what is left to show of one
    of them is the text of a finite number, and a class need not have the letters of the other names if
    the number is a finite one. -/
theorem of_finite {x : Float} (hx : isFinite x = true ∨ ∀ c ∈ nameLetters, P c)
    (text : Nat → Int → List Char) (htext : ∀ m q, ∀ c ∈ text m q, P c) :
    ∀ c ∈ (match Binary.ofFloat x with
      | .undefined => "NaN"
      | .infinite negative => String.ofList (Decimal.signed negative ['i', 'n', 'f'])
      | .finite negative m q => String.ofList (Decimal.signed negative (text m q))).toList, P c := by
  have hundefined : ∀ c ∈ "NaN".toList, c ∈ nameLetters := by simp [nameLetters]
  have hinfinite : ∀ c ∈ ['i', 'n', 'f'], c ∈ nameLetters := by simp [nameLetters]
  unfold isFinite at hx
  cases hb : Binary.ofFloat x with
  | undefined =>
    rw [hb] at hx
    have hletters := hx.resolve_left Bool.false_ne_true
    exact fun c hc => hletters c (hundefined c hc)
  | infinite negative =>
    rw [hb] at hx
    have hletters := hx.resolve_left Bool.false_ne_true
    exact h.signed (fun c hc => hletters c (hinfinite c hc)) negative
  | finite negative m q =>
    show ∀ c ∈ (String.ofList (Decimal.signed negative (text m q))).toList, P c
    exact h.signed (htext m q) negative

/-- **A number with all its digits is written with digits, a point and a sign**, and only if it is not
    finite with other letters. -/
theorem plain {x : Float} (hx : isFinite x = true ∨ ∀ c ∈ nameLetters, P c) :
    ∀ c ∈ (plain x).toList, P c := by
  refine h.of_finite hx (fun m q => if m = 0 then ['0'] else positional (shortest .up m q))
    fun m q c hc => ?_
  split at hc
  · rw [List.mem_singleton.1 hc]
    exact h.digit '0' rfl
  · exact h.of_mem (mem_positional hc)

/-- **So is a number with a fixed number of places.** -/
theorem places {x : Float} (hx : isFinite x = true ∨ ∀ c ∈ nameLetters, P c) (n : Nat) :
    ∀ c ∈ (places n x).toList, P c :=
  h.of_finite hx (fun m q => withPoint (digitsOf (roundScaled m q n .toEven)) n)
    fun _ _ _ hc => h.of_mem (mem_withPoint hc)

end HasNumerals

/-- No number is written over two lines. -/
theorem newline_not_mem_amount (x : Float) : '\n' ∉ (amount x).toList := by
  have hclass : HasNumerals (· ≠ '\n') := by
    refine ⟨?_, by decide, by decide⟩
    rintro c hc rfl
    exact absurd hc (by decide)
  have hnames : ∀ c ∈ nameLetters, c ≠ '\n' := by simp [nameLetters]
  unfold amount
  split
  · decide
  · exact fun hc => hclass.plain (.inr hnames) '\n' hc rfl

end Decimal
end Infochart
