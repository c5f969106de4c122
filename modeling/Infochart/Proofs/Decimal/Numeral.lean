import Mathlib.Data.List.Infix
import Mathlib.Data.List.TakeWhile
import Infochart.Decimal.Numeral

/-!
# The longest numeral

What a numeral is stands here as a grammar, for any class of digits: an optional sign, digits with an
optional point of which at least one is a digit, and an optional exponent with at least one digit.
`IsLeading` says that a numeral stands at the front of a text and that no longer one does, and **the
scanner finds exactly this numeral** (`Numeral.scan_eq_some_iff`), or none if there is none
(`Numeral.scan_eq_none_iff`).

The scanner never goes back: it takes a sign, all digits, a point with all digits behind it, and an
exponent if it is complete. Of each of these steps one lemma says that what it takes is of the grammar
(`exists_sign`, `exists_mantissa`, `exists_exponent`), and one that it takes at least what the grammar
wants, whatever follows (`takeSign_append`, `IsMantissa.takeFraction_append`, `takeExponent_append`).
-/

namespace Infochart
namespace Decimal

/-! ## The grammar -/

/-- Whether a class of digits leaves the other characters of a numeral apart. -/
structure SetsApart (D : Char → Bool) : Prop where
  plus : D '+' = false
  minus : D '-' = false
  point : D '.' = false
  lower : D 'e' = false
  upper : D 'E' = false

theorem setsApart_ascii : SetsApart Char.isDigit :=
  ⟨rfl, rfl, rfl, rfl, rfl⟩

/-- At least one digit. -/
structure IsDigits (D : Char → Bool) (ds : List Char) : Prop where
  nonempty : ds ≠ []
  all : ∀ c ∈ ds, D c = true

/-- The spellings of a sign; no sign counts as plus. -/
inductive IsSign : List Char → Bool → Prop
  | absent : IsSign [] false
  | plus : IsSign ['+'] false
  | minus : IsSign ['-'] true

/-- The digits before and behind the point. -/
inductive IsMantissa (D : Char → Bool) : List Char → List Char → List Char → Prop
  | whole {ds : List Char} (hds : IsDigits D ds) : IsMantissa D ds ds []
  | point {ds fs : List Char} (hds : IsDigits D ds) (hfs : ∀ c ∈ fs, D c = true) :
    IsMantissa D (ds ++ '.' :: fs) ds fs
  | fraction {fs : List Char} (hfs : IsDigits D fs) : IsMantissa D ('.' :: fs) [] fs

/-- The sign and the digits of an exponent. -/
inductive IsExponent (D : Char → Bool) : List Char → Bool → List Char → Prop
  | absent : IsExponent D [] false []
  | present {c : Char} {sign ds : List Char} {negative : Bool} (hc : c = 'e' ∨ c = 'E')
    (hsign : IsSign sign negative) (hds : IsDigits D ds) :
    IsExponent D (c :: (sign ++ ds)) negative ds

/-- Whether a text is a numeral and nothing else. -/
inductive Spells (D : Char → Bool) : List Char → Numeral → Prop
  | numeral {sign mantissa tail whole fraction exponent : List Char} {negative low : Bool}
    (hsign : IsSign sign negative) (hmantissa : IsMantissa D mantissa whole fraction)
    (htail : IsExponent D tail low exponent) :
    Spells D (sign ++ (mantissa ++ tail)) ⟨negative, whole, fraction, low, exponent⟩

/-- Whether a text begins with a numeral, and with no longer one. -/
structure IsLeading (D : Char → Bool) (s w : List Char) (n : Numeral) : Prop where
  leads : w <+: s
  spells : Spells D w n
  longest : ∀ v m, v <+: s → Spells D v m → v.length ≤ w.length

section Scan

variable {D : Char → Bool} {s t w ds : List Char}

/-! ## Signs -/

theorem takeSign_append {sign : List Char} {negative : Bool} (h : IsSign sign negative)
    (ht : ∀ c ∈ t.head?, c ≠ '-' ∧ c ≠ '+') : takeSign (sign ++ t) = (negative, t) := by
  cases h with
  | plus => rfl
  | minus => rfl
  | absent =>
    cases t with
    | nil => rfl
    | cons c t =>
      obtain ⟨hminus, hplus⟩ := ht c rfl
      unfold takeSign
      split
      · exact absurd (List.cons.inj ‹_›).1 hminus
      · exact absurd (List.cons.inj ‹_›).1 hplus
      · rfl

theorem exists_sign {negative : Bool} (h : takeSign s = (negative, t)) :
    ∃ sign, IsSign sign negative ∧ s = sign ++ t := by
  unfold takeSign at h
  split at h <;> cases h
  · exact ⟨['-'], .minus, rfl⟩
  · exact ⟨['+'], .plus, rfl⟩
  · exact ⟨[], .absent, rfl⟩

/-- No digit is a sign. -/
theorem SetsApart.not_sign (hD : SetsApart D) {c : Char} (hc : D c = true) : c ≠ '-' ∧ c ≠ '+' := by
  constructor
  · rintro rfl
    exact ne_true_of_eq_false hD.minus hc
  · rintro rfl
    exact ne_true_of_eq_false hD.plus hc

/-- What begins with digits begins with a digit. -/
theorem IsDigits.of_mem_head? (h : IsDigits D ds) (t : List Char) {c : Char}
    (hc : c ∈ (ds ++ t).head?) : D c = true := by
  obtain ⟨hne, hall⟩ := h
  cases ds with
  | nil => exact absurd rfl hne
  | cons d ds =>
    cases hc
    exact hall c (List.mem_cons_self ..)

/-! ## Exponents -/

theorem exists_exponent {low : Bool} {r : List Char} (h : takeExponent D s = ((low, ds), r)) :
    ∃ x, IsExponent D x low ds ∧ s = x ++ r := by
  cases s with
  | nil =>
    cases h
    exact ⟨[], .absent, rfl⟩
  | cons c s =>
    by_cases hc : c = 'e' ∨ c = 'E'
    · rcases hsigned : takeSign s with ⟨negative, t⟩
      obtain ⟨sign, hsign, hs⟩ := exists_sign hsigned
      simp only [takeExponent, if_pos hc, hsigned] at h
      by_cases hempty : (t.takeWhile D).isEmpty = true
      · rw [if_pos hempty] at h
        cases h
        exact ⟨[], .absent, rfl⟩
      · rw [if_neg hempty] at h
        cases h
        have hds : IsDigits D (t.takeWhile D) :=
          ⟨fun h => hempty (List.isEmpty_iff.2 h), fun d hd => List.mem_takeWhile_imp hd⟩
        refine ⟨_, .present hc hsign hds, ?_⟩
        rw [List.cons_append, List.append_assoc, List.takeWhile_append_dropWhile, ← hs]
    · simp only [takeExponent, if_neg hc] at h
      cases h
      exact ⟨[], .absent, rfl⟩

theorem takeExponent_append (hD : SetsApart D) {x : List Char} {low : Bool}
    (h : IsExponent D x low ds) (t : List Char) :
    ∃ e r, takeExponent D (x ++ t) = (e, r) ∧ r <:+ t ∧ (t = [] → e = (low, ds)) := by
  cases h with
  | absent =>
    rcases htaken : takeExponent D t with ⟨⟨low, es⟩, r⟩
    obtain ⟨x, -, ht⟩ := exists_exponent htaken
    refine ⟨_, r, htaken, ⟨x, ht.symm⟩, ?_⟩
    rintro rfl
    cases htaken
    rfl
  | present hc hsign hds =>
    rename_i c sign
    have htaken := takeSign_append hsign fun d hd => hD.not_sign (hds.of_mem_head? t hd)
    have hsome : ¬ (ds ++ t.takeWhile D).isEmpty = true := by
      rw [List.isEmpty_iff, List.append_eq_nil_iff]
      exact fun hnil => hds.nonempty hnil.1
    refine ⟨(low, ds ++ t.takeWhile D), t.dropWhile D, ?_, List.dropWhile_suffix D, ?_⟩
    · simp only [takeExponent, List.cons_append, List.append_assoc, if_pos hc, htaken,
        List.takeWhile_append_of_pos hds.all, List.dropWhile_append_of_pos hds.all, if_neg hsome]
    · rintro rfl
      rw [List.takeWhile_nil, List.append_nil]

/-! ## The digits before an exponent -/

/-- The digits behind a point if there is one, and the rest. -/
def takeFraction (D : Char → Bool) : List Char → Option (List Char) × List Char
  | '.' :: t => (some (t.takeWhile D), t.dropWhile D)
  | t => (none, t)

theorem takeFraction_suffix (D : Char → Bool) (s : List Char) : (takeFraction D s).2 <:+ s := by
  unfold takeFraction
  split
  · exact (List.dropWhile_suffix D).trans (List.suffix_cons ..)
  · exact List.suffix_rfl

/-- An exponent stops the digits before it, so more of them are found behind it only if it is left out. -/
theorem IsExponent.digits_append (hD : SetsApart D) {x es : List Char} {low : Bool}
    (h : IsExponent D x low es) (hds : ∀ c ∈ ds, D c = true) (t : List Char) :
    ∃ more t', (ds ++ (x ++ t)).takeWhile D = ds ++ more ∧
      (ds ++ (x ++ t)).dropWhile D = x ++ t' ∧ t' <:+ t ∧ (t = [] → more = []) := by
  rw [List.takeWhile_append_of_pos hds, List.dropWhile_append_of_pos hds]
  cases h with
  | absent =>
    refine ⟨t.takeWhile D, t.dropWhile D, rfl, rfl, List.dropWhile_suffix D, ?_⟩
    rintro rfl
    rfl
  | present hc hsign hes =>
    rename_i c sign
    have hstop : ¬ D c = true := by
      rcases hc with rfl | rfl
      · exact ne_true_of_eq_false hD.lower
      · exact ne_true_of_eq_false hD.upper
    rw [List.cons_append, List.takeWhile_cons_of_neg hstop, List.dropWhile_cons_of_neg hstop]
    exact ⟨[], t, rfl, rfl, List.suffix_rfl, fun _ => rfl⟩

/-- An exponent is in the way of a point as well. -/
theorem IsExponent.takeFraction_append {x : List Char} {low : Bool} (h : IsExponent D x low ds)
    (t : List Char) :
    ∃ fs t', takeFraction D (x ++ t) = (fs, x ++ t') ∧ t' <:+ t ∧ (t = [] → fs = none) := by
  cases h with
  | absent =>
    refine ⟨_, _, rfl, takeFraction_suffix D t, ?_⟩
    rintro rfl
    rfl
  | present hc hsign hds =>
    refine ⟨none, t, ?_, List.suffix_rfl, fun _ => rfl⟩
    rcases hc with rfl | rfl
    · rfl
    · rfl

/-- What the scanner reads of a mantissa before an exponent: at least its digits. -/
theorem IsMantissa.takeFraction_append (hD : SetsApart D) {m ds fs x es : List Char} {low : Bool}
    (h : IsMantissa D m ds fs) (hx : IsExponent D x low es) (t : List Char) :
    ∃ fs' t', takeFraction D ((m ++ (x ++ t)).dropWhile D) = (fs', x ++ t') ∧ t' <:+ t ∧
      ¬ ((m ++ (x ++ t)).takeWhile D = [] ∧ fs'.getD [] = []) ∧
      (t = [] → (m ++ (x ++ t)).takeWhile D = ds ∧ fs'.getD [] = fs) := by
  have hpoint : ¬ D '.' = true := ne_true_of_eq_false hD.point
  cases h with
  | whole hds =>
    obtain ⟨more, t₁, htake, hdrop, hsuffix, hnone⟩ := hx.digits_append hD hds.all t
    obtain ⟨fs, t₂, hfraction, hsuffix', hnone'⟩ := hx.takeFraction_append (D := D) t₁
    rw [htake, hdrop]
    refine ⟨fs, t₂, hfraction, hsuffix'.trans hsuffix, ?_, ?_⟩
    · exact fun hnil => hds.nonempty (List.append_eq_nil_iff.1 hnil.1).1
    · rintro rfl
      rw [hnone rfl, List.append_nil, hnone' (List.suffix_nil.1 hsuffix)]
      exact ⟨rfl, rfl⟩
  | point hds hfs =>
    obtain ⟨more, t₁, htake, hdrop, hsuffix, hnone⟩ := hx.digits_append hD hfs t
    rw [List.append_assoc, List.takeWhile_append_of_pos hds.all, List.dropWhile_append_of_pos hds.all,
      List.cons_append, List.takeWhile_cons_of_neg hpoint, List.dropWhile_cons_of_neg hpoint,
      List.append_nil, takeFraction, htake, hdrop]
    refine ⟨_, t₁, rfl, hsuffix, fun hnil => hds.nonempty hnil.1, ?_⟩
    rintro rfl
    rw [hnone rfl, List.append_nil]
    exact ⟨rfl, rfl⟩
  | fraction hfs =>
    obtain ⟨more, t₁, htake, hdrop, hsuffix, hnone⟩ := hx.digits_append hD hfs.all t
    rw [List.cons_append, List.takeWhile_cons_of_neg hpoint, List.dropWhile_cons_of_neg hpoint,
      takeFraction, htake, hdrop]
    refine ⟨_, t₁, rfl, hsuffix, ?_, ?_⟩
    · exact fun hnil => hfs.nonempty (List.append_eq_nil_iff.1 hnil.2).1
    · rintro rfl
      rw [hnone rfl, List.append_nil]
      exact ⟨rfl, rfl⟩

/-- A mantissa begins with a digit or with its point. -/
theorem IsMantissa.not_sign (hD : SetsApart D) {m fs : List Char} (h : IsMantissa D m ds fs)
    (t : List Char) : ∀ c ∈ (m ++ t).head?, c ≠ '-' ∧ c ≠ '+' := by
  intro c hc
  cases h with
  | whole hds => exact hD.not_sign (hds.of_mem_head? t hc)
  | point hds hfs =>
    rw [List.append_assoc] at hc
    exact hD.not_sign (hds.of_mem_head? _ hc)
  | fraction hfs =>
    cases hc
    decide

/-! ## Numerals -/

/-- The scanner, from what its parts take. -/
theorem scan_of_parts {negative low : Bool} {fs : Option (List Char)} {u es r : List Char}
    (hsign : takeSign s = (negative, t)) (hfraction : takeFraction D (t.dropWhile D) = (fs, u))
    (htail : takeExponent D u = ((low, es), r)) :
    Numeral.scan D s = if t.takeWhile D = [] ∧ fs.getD [] = [] then none
      else some (⟨negative, t.takeWhile D, fs.getD [], low, es⟩, r) := by
  have hscan : Numeral.scan D s =
      if ((takeSign s).2.takeWhile D).isEmpty = true ∧
          ((takeFraction D ((takeSign s).2.dropWhile D)).1.getD []).isEmpty = true then none
      else
        let found := takeExponent D (takeFraction D ((takeSign s).2.dropWhile D)).2
        some (⟨(takeSign s).1, (takeSign s).2.takeWhile D,
          (takeFraction D ((takeSign s).2.dropWhile D)).1.getD [], found.1.1, found.1.2⟩,
          found.2) := rfl
  rw [hscan, hsign]
  simp only [hfraction, htail, List.isEmpty_iff]

/-- A scan that begins with a numeral reads at least this numeral, and no other one if it ends there. -/
theorem Spells.scan_append (hD : SetsApart D) {n : Numeral} (h : Spells D w n) (t : List Char) :
    ∃ n' r, Numeral.scan D (w ++ t) = some (n', r) ∧ r <:+ t ∧ (t = [] → n' = n) := by
  cases h with
  | @numeral sign mantissa tail whole fraction exponent negative low hsign hmantissa htail =>
    obtain ⟨fs, t₁, hfraction, hsuffix, hsome, hwhole⟩ := hmantissa.takeFraction_append hD htail t
    obtain ⟨⟨low', es⟩, r, hexponent, hsuffix', htail'⟩ := takeExponent_append hD htail t₁
    have htaken := takeSign_append hsign (hmantissa.not_sign hD (tail ++ t))
    have hscan := scan_of_parts htaken hfraction hexponent
    rw [if_neg hsome] at hscan
    rw [List.append_assoc, List.append_assoc]
    refine ⟨_, r, hscan, hsuffix'.trans hsuffix, ?_⟩
    rintro rfl
    obtain ⟨hds, hfs⟩ := hwhole rfl
    obtain ⟨rfl, rfl⟩ := Prod.mk.inj (htail' (List.suffix_nil.1 hsuffix))
    rw [hds, hfs]

/-- The scanner takes a numeral as a whole. -/
theorem Spells.scan_eq (hD : SetsApart D) {n : Numeral} (h : Spells D s n) : Numeral.scan D s = some (n, []) := by
  obtain ⟨n', r, hscan, hrest, hsame⟩ := h.scan_append hD []
  rw [List.append_nil] at hscan
  rw [hscan, hsame rfl, List.suffix_nil.1 hrest]

/-- What the scanner takes before an exponent is a mantissa. -/
theorem exists_mantissa {fs : Option (List Char)} {u : List Char}
    (hfraction : takeFraction D (t.dropWhile D) = (fs, u))
    (hsome : ¬ (t.takeWhile D = [] ∧ fs.getD [] = [])) :
    ∃ m, IsMantissa D m (t.takeWhile D) (fs.getD []) ∧ t = m ++ u := by
  have hwhole : ∀ c ∈ t.takeWhile D, D c = true := fun c hc => List.mem_takeWhile_imp hc
  have ht := (List.takeWhile_append_dropWhile (p := D) (l := t)).symm
  generalize t.takeWhile D = ds at *
  generalize t.dropWhile D = v at *
  unfold takeFraction at hfraction
  split at hfraction <;> cases hfraction
  · rename_i v
    have hfs : ∀ c ∈ v.takeWhile D, D c = true := fun c hc => List.mem_takeWhile_imp hc
    by_cases hds : ds = []
    · subst hds
      refine ⟨_, .fraction ⟨fun hnil => hsome ⟨rfl, hnil⟩, hfs⟩, ?_⟩
      rw [Option.getD_some, List.cons_append, List.takeWhile_append_dropWhile]
      exact ht
    · refine ⟨_, .point ⟨hds, hwhole⟩ hfs, ?_⟩
      rw [Option.getD_some, List.append_assoc, List.cons_append, List.takeWhile_append_dropWhile]
      exact ht
  · exact ⟨ds, .whole ⟨fun hnil => hsome ⟨hnil, rfl⟩, hwhole⟩, ht⟩

/-- What the scanner reads is a numeral. -/
theorem exists_spelled {n : Numeral} {r : List Char} (h : Numeral.scan D s = some (n, r)) :
    ∃ w, s = w ++ r ∧ Spells D w n := by
  rcases hsigned : takeSign s with ⟨negative, t⟩
  rcases hfraction : takeFraction D (t.dropWhile D) with ⟨fs, u⟩
  rcases htail : takeExponent D u with ⟨⟨low, es⟩, r'⟩
  rw [scan_of_parts hsigned hfraction htail] at h
  split at h
  · cases h
  · cases h
    obtain ⟨sign, hsign, rfl⟩ := exists_sign hsigned
    obtain ⟨m, hm, ht⟩ := exists_mantissa hfraction ‹_›
    obtain ⟨x, hx, rfl⟩ := exists_exponent htail
    refine ⟨sign ++ (m ++ x), ?_, .numeral hsign hm hx⟩
    rw [List.append_assoc, List.append_assoc, ← ht]

/-- A numeral is spelled in one way only. -/
theorem Spells.unique (hD : SetsApart D) {n m : Numeral} (hn : Spells D w n) (hm : Spells D w m) :
    n = m := by
  obtain ⟨n', r, hscan, hr, hsame⟩ := hn.scan_append hD []
  obtain ⟨m', r', hscan', hr', hsame'⟩ := hm.scan_append hD []
  cases hscan.symm.trans hscan'
  exact (hsame rfl).symm.trans (hsame' rfl)

/-- **The scanner reads the longest numeral in front of a text.** -/
theorem Numeral.scan_eq_some_iff (hD : SetsApart D) {n : Numeral} {r : List Char} :
    Numeral.scan D s = some (n, r) ↔ ∃ w, s = w ++ r ∧ IsLeading D s w n := by
  constructor
  · intro h
    obtain ⟨w, hs, hw⟩ := exists_spelled h
    refine ⟨w, hs, ⟨r, hs.symm⟩, hw, ?_⟩
    rintro v m ⟨t, rfl⟩ hv
    -- What is left after a longer numeral is shorter, and the scanner leaves no more than that.
    obtain ⟨n', r', hscan, hsuffix, -⟩ := hv.scan_append hD t
    cases hscan.symm.trans h
    have hlength := congrArg List.length hs
    have hle := hsuffix.length_le
    rw [List.length_append, List.length_append] at hlength
    omega
  · rintro ⟨w, rfl, hw⟩
    obtain ⟨n', r', hscan, hsuffix, -⟩ := hw.spells.scan_append hD r
    obtain ⟨w', hs, hw'⟩ := exists_spelled hscan
    have hle := hw.longest w' n' ⟨r', hs.symm⟩ hw'
    have hlength := congrArg List.length hs
    rw [List.length_append, List.length_append] at hlength
    obtain rfl := hsuffix.eq_of_length_le (by omega)
    obtain rfl := List.append_cancel_right hs
    rw [hscan, hw'.unique hD hw.spells]

/-- **Where the scanner reads nothing the text begins with no numeral.** -/
theorem Numeral.scan_eq_none_iff (hD : SetsApart D) :
    Numeral.scan D s = none ↔ ∀ w n, ¬ IsLeading D s w n := by
  constructor
  · intro h w n hw
    obtain ⟨r, hr⟩ := hw.leads
    have hscan := (Numeral.scan_eq_some_iff hD).2 ⟨w, hr.symm, hw⟩
    rw [h] at hscan
    cases hscan
  · intro h
    cases hscan : Numeral.scan D s with
    | none => rfl
    | some found =>
      obtain ⟨w, -, hw⟩ := (Numeral.scan_eq_some_iff hD).1 hscan
      exact absurd hw (h w found.1)

/-! ## Classes of digits -/

/-- All digits of a numeral, those of the exponent included. -/
def Numeral.digits (n : Numeral) : List Char :=
  n.whole ++ n.fraction ++ n.exponent

variable {E : Char → Bool} {n : Numeral}

theorem IsMantissa.digits {m fs : List Char} (h : IsMantissa D m ds fs) :
    ∀ c ∈ ds ++ fs, D c = true := by
  cases h with
  | whole hds =>
    rw [List.append_nil]
    exact hds.all
  | point hds hfs => exact List.forall_mem_append.2 ⟨hds.all, hfs⟩
  | fraction hfs => exact hfs.all

theorem IsExponent.digits {x : List Char} {low : Bool} (h : IsExponent D x low ds) :
    ∀ c ∈ ds, D c = true := by
  cases h with
  | absent => exact List.forall_mem_nil _
  | present hc hsign hds => exact hds.all

/-- A numeral has digits of its class only. -/
theorem Spells.digits (h : Spells D w n) : ∀ c ∈ n.digits, D c = true := by
  cases h with
  | numeral hsign hmantissa htail =>
    exact List.forall_mem_append.2 ⟨hmantissa.digits, htail.digits⟩

theorem IsMantissa.digits_subset {m fs : List Char} (h : IsMantissa D m ds fs) : ds ++ fs ⊆ m := by
  cases h with
  | whole hds =>
    rw [List.append_nil]
    exact List.Subset.refl _
  | point hds hfs =>
    refine List.append_subset.2 ⟨List.subset_append_left .., ?_⟩
    exact List.Subset.trans (List.subset_cons_self ..) (List.subset_append_right ..)
  | fraction hfs => exact List.subset_cons_self ..

theorem IsExponent.digits_subset {x : List Char} {low : Bool} (h : IsExponent D x low ds) :
    ds ⊆ x := by
  cases h with
  | absent => exact List.Subset.refl _
  | present hc hsign hds =>
    exact List.Subset.trans (List.subset_append_right ..) (List.subset_cons_self ..)

/-- The digits of a numeral stand in its text. -/
theorem Spells.digits_subset (h : Spells D w n) : n.digits ⊆ w := by
  cases h with
  | numeral hsign hmantissa htail =>
    refine List.Subset.trans (List.append_subset.2 ⟨?_, ?_⟩) (List.subset_append_right ..)
    · exact List.Subset.trans hmantissa.digits_subset (List.subset_append_left ..)
    · exact List.Subset.trans htail.digits_subset (List.subset_append_right ..)

theorem IsMantissa.change {m fs : List Char} (h : IsMantissa D m ds fs)
    (hE : ∀ c ∈ ds ++ fs, E c = true) : IsMantissa E m ds fs := by
  obtain ⟨hds, hfs⟩ := List.forall_mem_append.1 hE
  cases h with
  | whole h => exact .whole ⟨h.nonempty, hds⟩
  | point h => exact .point ⟨h.nonempty, hds⟩ hfs
  | fraction h => exact .fraction ⟨h.nonempty, hfs⟩

theorem IsExponent.change {x : List Char} {low : Bool} (h : IsExponent D x low ds)
    (hE : ∀ c ∈ ds, E c = true) : IsExponent E x low ds := by
  cases h with
  | absent => exact .absent
  | present hc hsign hds => exact .present hc hsign ⟨hds.nonempty, hE⟩

/-- A numeral is one for every class that has its digits. -/
theorem Spells.change (h : Spells D w n) (hE : ∀ c ∈ n.digits, E c = true) : Spells E w n := by
  obtain ⟨hdigits, hexponent⟩ := List.forall_mem_append.1 hE
  cases h with
  | numeral hsign hmantissa htail =>
    exact .numeral hsign (hmantissa.change hdigits) (htail.change hexponent)

theorem Spells.mono (hDE : ∀ c, D c = true → E c = true) (h : Spells D w n) : Spells E w n :=
  h.change fun c hc => hDE c (h.digits c hc)

/-- The longest numeral of a larger class is that of a smaller one if the smaller class has its digits. -/
theorem IsLeading.restrict (hDE : ∀ c, D c = true → E c = true) (h : IsLeading E s w n)
    (hn : ∀ c ∈ n.digits, D c = true) : IsLeading D s w n :=
  ⟨h.leads, h.spells.change hn, fun v m hv hm => h.longest v m hv (hm.mono hDE)⟩

/-- A text has only one longest numeral. -/
theorem IsLeading.unique (hD : SetsApart D) {v : List Char} {m : Numeral} (hw : IsLeading D s w n)
    (hv : IsLeading D s v m) : w = v ∧ n = m := by
  have hle := hw.longest v m hv.leads hv.spells
  have hge := hv.longest w n hw.leads hw.spells
  obtain rfl := (List.prefix_of_prefix_length_le hw.leads hv.leads hge).eq_of_length_le hle
  exact ⟨rfl, hw.spells.unique hD hv.spells⟩

end Scan

end Decimal
end Infochart
