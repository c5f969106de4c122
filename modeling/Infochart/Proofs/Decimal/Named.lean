import Infochart.Decimal.Text
import Infochart.Proofs.Decimal.Numeral
import Infochart.Proofs.Text.Ascii

/-!
# Texts that stand for a number

A whole text stands for a number if it is a numeral, or if it is a name of one of the numbers that are not
finite, with a sign or without and in any letter case (`isSome_number?_iff`). No name can be taken for a
numeral, whatever counts as a digit, as long as letters do not (`SpellsName.scan_eq_none`); and what it
names is not finite (`isFinite_of_named?`).
-/

namespace Infochart
namespace Decimal

/-- The names of the numbers that are not finite. -/
def names : List (List Char) :=
  ["inf".toList, "infinity".toList, "nan".toList]

/-- Whether a text is such a name, in any letter case and with any sign. -/
inductive SpellsName : List Char → Prop
  | name {sign name : List Char} {negative : Bool} (hsign : IsSign sign negative)
    (hname : name.map Char.toLower ∈ names) : SpellsName (sign ++ name)

theorem mem_names_iff {w : List Char} :
    w ∈ names ↔ (w = "inf".toList ∨ w = "infinity".toList) ∨ w = "nan".toList := by
  simp only [names, List.mem_cons, List.not_mem_nil, or_false, or_assoc]

variable {D : Char → Bool} {s name : List Char} {n : Numeral}

theorem number?_of_spells (h : Spells Char.isDigit s n) : number? s = some n.value := by
  unfold number?
  rw [h.scan_eq setsApart_ascii]

/-! ## Names -/

/-- The letters that a name begins with. -/
def initials : List Char :=
  ['I', 'N', 'i', 'n']

theorem exists_initial (h : name.map Char.toLower ∈ names) : ∃ c ∈ initials, ∃ r, name = c :: r := by
  have hhead : ∀ w ∈ names, w.head? = some 'i' ∨ w.head? = some 'n' := by decide
  have hcapital : ∀ c ∈ Text.capitals, c.toLower = 'i' ∨ c.toLower = 'n' → c ∈ initials := by decide
  cases name with
  | nil => exact absurd h (by decide)
  | cons c r =>
    have hc : c.toLower = 'i' ∨ c.toLower = 'n' := by
      simpa using hhead _ h
    refine ⟨c, ?_, r, rfl⟩
    rcases Text.toLower_eq_or_mem c with hlower | hmem
    · rw [hlower] at hc
      rcases hc with rfl | rfl <;> decide
    · exact hcapital c hmem hc

theorem takeSign_of_mem_names {sign : List Char} {negative : Bool} (hsign : IsSign sign negative)
    (hname : name.map Char.toLower ∈ names) : takeSign (sign ++ name) = (negative, name) := by
  have hinitial : ∀ c ∈ initials, c ≠ '-' ∧ c ≠ '+' := by decide
  apply takeSign_append hsign
  obtain ⟨c, hc, r, rfl⟩ := exists_initial hname
  rintro d ⟨⟩
  exact hinitial c hc

theorem named?_of_takeSign {negative : Bool} (h : takeSign s = (negative, name)) : named? s =
    if name.map Char.toLower = "inf".toList ∨ name.map Char.toLower = "infinity".toList then
      some (if negative then -infinity else infinity)
    else if name.map Char.toLower = "nan".toList then some undefinedNumber else none := by
  unfold named?
  rw [h]

theorem isSome_named?_iff : (named? s).isSome ↔ SpellsName s := by
  constructor
  · intro h
    rcases hsigned : takeSign s with ⟨negative, name⟩
    obtain ⟨sign, hsign, rfl⟩ := exists_sign hsigned
    rw [named?_of_takeSign hsigned] at h
    refine .name hsign (mem_names_iff.2 ?_)
    split at h
    · exact .inl ‹_›
    · split at h
      · exact .inr ‹_›
      · cases h
  · rintro ⟨hsign, hname⟩
    rw [named?_of_takeSign (takeSign_of_mem_names hsign hname)]
    split
    · rfl
    · rw [if_pos ((mem_names_iff.1 hname).resolve_left ‹_›)]
      rfl

/-- What has a name is not finite. -/
theorem isFinite_of_named? {x : Float} (h : named? s = some x) : isFinite x = false := by
  have hinfinity : isFinite infinity = false := by decide +kernel
  have hminus : isFinite (-infinity) = false := by decide +kernel
  have hundefined : isFinite undefinedNumber = false := by decide +kernel
  rcases hsigned : takeSign s with ⟨negative, name⟩
  rw [named?_of_takeSign hsigned] at h
  split at h
  · obtain rfl := Option.some.inj h
    split
    · exact hminus
    · exact hinfinity
  · split at h
    · obtain rfl := Option.some.inj h
      exact hundefined
    · cases h

/-- **A name is no numeral**, and does not begin with one either. -/
theorem SpellsName.scan_eq_none (hD : ∀ c ∈ initials, D c = false) (h : SpellsName s) :
    Numeral.scan D s = none := by
  have hinitial : ∀ c ∈ initials, c ≠ '.' := by decide
  obtain ⟨hsign, hname⟩ := h
  have hsigned := takeSign_of_mem_names hsign hname
  obtain ⟨c, hc, r, rfl⟩ := exists_initial hname
  have hstop : ¬ D c = true := ne_true_of_eq_false (hD c hc)
  have hpoint : c ≠ '.' := hinitial c hc
  have hfraction : takeFraction D ((c :: r).dropWhile D) = (none, c :: r) := by
    rw [List.dropWhile_cons_of_neg hstop]
    unfold takeFraction
    split
    · exact absurd (List.cons.inj ‹_›).1 hpoint
    · rfl
  rcases htail : takeExponent D (c :: r) with ⟨⟨low, es⟩, t⟩
  rw [scan_of_parts hsigned hfraction htail, List.takeWhile_cons_of_neg hstop]
  exact if_pos ⟨rfl, rfl⟩

/-- A text with the name of a number stands for one that is not finite. -/
theorem SpellsName.exists_number? (h : SpellsName s) : ∃ x, number? s = some x ∧ isFinite x = false := by
  have hletters : ∀ c ∈ initials, c.isDigit = false := by decide
  obtain ⟨x, hx⟩ := Option.isSome_iff_exists.1 (isSome_named?_iff.2 h)
  refine ⟨x, ?_, isFinite_of_named? hx⟩
  unfold number?
  rw [h.scan_eq_none hletters]
  exact hx

/-! ## Both -/

/-- **The texts that stand for a number are the numerals and the names.** -/
theorem isSome_number?_iff :
    (number? s).isSome ↔ (∃ n, Spells Char.isDigit s n) ∨ SpellsName s := by
  constructor
  · intro h
    unfold number? at h
    split at h
    · rename_i n hscan
      obtain ⟨w, hs, hw⟩ := exists_spelled hscan
      rw [List.append_nil] at hs
      exact .inl ⟨n, hs ▸ hw⟩
    · exact .inr (isSome_named?_iff.1 h)
  · rintro (⟨n, hn⟩ | hname)
    · rw [number?_of_spells hn]
      rfl
    · obtain ⟨x, hx, -⟩ := hname.exists_number?
      rw [hx]
      rfl

end Decimal
end Infochart
