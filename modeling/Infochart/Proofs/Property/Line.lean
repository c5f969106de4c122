import Infochart.Proofs.Text.Blank
import Infochart.Proofs.Text.Lines
import Infochart.Property.Reader

/-!
# What a property line is

`Reads s k` says what the line `s` is without saying how it is found out: blank, an entry, or
malformed in one of two ways. `Line.read` decides it (`reads_iff`). Beside it stands the identifier,
whose three digits and whose reader are inverse to each other (`Id.ofDigits?_eq_some_iff`).

A line is read through its trimmed text only, so `Line.read` does not see a carriage return at its
end (`Line.read_append_return`); the lines of a whole text are its `readings`.
-/

namespace Infochart
namespace Property

/-! ## Identifiers -/

theorem digitChar_isDigit : ∀ n, n < 10 → (digitChar n).isDigit = true := by decide

theorem toNat_digitChar : ∀ n, n < 10 → (digitChar n).toNat - 48 = n := by decide

theorem digitChar_toNat {c : Char} (h : c.isDigit = true) :
    c.toNat - 48 < 10 ∧ digitChar (c.toNat - 48) = c := by
  simp only [Char.isDigit, Bool.and_eq_true, decide_eq_true_eq, ge_iff_le, UInt32.le_iff_toNat_le]
    at h
  have hlow : 48 ≤ c.toNat := h.1
  have hhigh : c.toNat ≤ 57 := h.2
  refine ⟨by omega, ?_⟩
  unfold digitChar
  rw [show 48 + (c.toNat - 48) = c.toNat by omega]
  exact Char.ofNat_toNat c

theorem Id.toNat_lt (id : Id) : id.toNat < 1000 := id.code.isLt

theorem Id.ofNat?_toNat (id : Id) : Id.ofNat? id.toNat = some id := by
  unfold Id.ofNat?
  rw [dif_pos id.toNat_lt]
  rfl

theorem Id.toNat_of_ofNat? {n : Nat} {id : Id} (h : Id.ofNat? n = some id) : id.toNat = n := by
  unfold Id.ofNat? at h
  split at h
  · cases h
    rfl
  · exact absurd h (by simp)

theorem Id.isDigit_of_mem_digits {id : Id} {c : Char} (h : c ∈ id.digits) : c.isDigit = true := by
  have hlt := id.toNat_lt
  simp only [Id.digits, List.mem_cons, List.not_mem_nil, or_false] at h
  rcases h with rfl | rfl | rfl
  · exact digitChar_isDigit _ (by omega)
  · exact digitChar_isDigit _ (by omega)
  · exact digitChar_isDigit _ (by omega)

theorem Id.ofDigits?_digits (id : Id) : Id.ofDigits? id.digits = some id := by
  have hlt := id.toNat_lt
  have h1 : id.toNat / 100 < 10 := by omega
  have h2 : id.toNat / 10 % 10 < 10 := by omega
  have h3 : id.toNat % 10 < 10 := by omega
  have hsum : 100 * (id.toNat / 100) + 10 * (id.toNat / 10 % 10) + id.toNat % 10 = id.toNat := by
    omega
  simp only [Id.digits, Id.ofDigits?, digitChar_isDigit _ h1, digitChar_isDigit _ h2,
    digitChar_isDigit _ h3, toNat_digitChar _ h1, toNat_digitChar _ h2, toNat_digitChar _ h3,
    Bool.and_self, if_true, hsum]
  exact id.ofNat?_toNat

/-- **Three digits and nothing else name an identifier.** -/
theorem Id.ofDigits?_eq_some_iff {s : List Char} {id : Id} :
    Id.ofDigits? s = some id ↔ s = id.digits := by
  constructor
  · intro h
    unfold Id.ofDigits? at h
    split at h
    · rename_i a b c
      split at h
      · rename_i hd
        simp only [Bool.and_eq_true] at hd
        obtain ⟨ha, hca⟩ := digitChar_toNat hd.1.1
        obtain ⟨hb, hcb⟩ := digitChar_toNat hd.1.2
        obtain ⟨hc, hcc⟩ := digitChar_toNat hd.2
        have hid := Id.toNat_of_ofNat? h
        unfold Id.digits
        rw [show id.toNat / 100 = a.toNat - 48 by omega,
          show id.toNat / 10 % 10 = b.toNat - 48 by omega,
          show id.toNat % 10 = c.toNat - 48 by omega, hca, hcb, hcc]
      · exact absurd h (by simp)
    · exact absurd h (by simp)
  · rintro rfl
    exact id.ofDigits?_digits

theorem Id.ofDigits?_eq_none_iff {s : List Char} :
    Id.ofDigits? s = none ↔ ∀ id : Id, s ≠ id.digits := by
  rw [Option.eq_none_iff_forall_ne_some]
  simp only [ne_eq, Id.ofDigits?_eq_some_iff]

/-- No digit is a blank, so an identifier survives trimming. -/
theorem isBlank_of_isDigit {c : Char} (h : c.isDigit = true) : Text.isBlank c = false := by
  obtain ⟨hlt, heq⟩ := digitChar_toNat h
  have hall : ∀ n, n < 10 → Text.isBlank (digitChar n) = false := by decide
  rw [← heq]
  exact hall _ hlt

theorem Id.not_mem_digits {id : Id} {c : Char} (h : c.isDigit = false) : c ∉ id.digits := by
  intro hm
  rw [Id.isDigit_of_mem_digits hm] at h
  exact absurd h (by simp)

theorem Id.trim_digits (id : Id) : Text.trim id.digits = id.digits := by
  rw [Text.trim_eq_self_iff]
  refine ⟨fun c hc => ?_, fun c hc => ?_⟩
  · exact isBlank_of_isDigit (Id.isDigit_of_mem_digits (List.mem_of_mem_head? hc))
  · exact isBlank_of_isDigit (Id.isDigit_of_mem_digits (List.mem_of_getLast? hc))

/-! ## The three kinds of lines -/

/-- What a line is. Trimming to nothing makes it blank; a comma with three digits in front of the
    first one makes it an entry; anything else is malformed. Each rule names all that it asks for, so their
    order does not matter. -/
inductive Reads : List Char → Line → Prop
  | blank {s : List Char} (hb : ∀ c ∈ s, Text.isBlank c = true) : Reads s .blank
  | entry {s token rest : List Char} {id : Id} (hs : Text.trim s = token ++ ',' :: rest)
      (hc : ',' ∉ token) (hid : Text.trim token = id.digits) :
      Reads s (.entry id (Text.trim rest))
  | missingComma {s : List Char} (hb : ¬ ∀ c ∈ s, Text.isBlank c = true)
      (hc : ',' ∉ Text.trim s) : Reads s (.malformed .missingComma)
  | badId {s token rest : List Char} (hs : Text.trim s = token ++ ',' :: rest) (hc : ',' ∉ token)
      (hid : ∀ id : Id, Text.trim token ≠ id.digits) :
      Reads s (.malformed (.badId (String.ofList (Text.trim token))))

theorem trim_ne_nil_of_comma {s token rest : List Char}
    (hs : Text.trim s = token ++ ',' :: rest) : (Text.trim s).isEmpty = false := by
  rw [hs]
  simp

theorem Reads.read_eq {s : List Char} {k : Line} (h : Reads s k) : Line.read s = k := by
  cases h with
  | blank hb =>
    rw [← Text.allBlank_iff, ← Text.trim_eq_nil_iff] at hb
    simp [Line.read, hb]
  | entry hs hc hid =>
    unfold Line.read
    dsimp only
    rw [trim_ne_nil_of_comma hs, hs, Text.splitFirst_append hc]
    simp only [hid, Id.ofDigits?_digits, Bool.false_eq_true, if_false]
  | missingComma hb hc =>
    have hne : (Text.trim s).isEmpty = false := by
      rw [← Text.allBlank_iff, ← Text.trim_eq_nil_iff] at hb
      simpa using hb
    unfold Line.read
    dsimp only
    rw [hne, Text.splitFirst_eq_none_iff.mpr hc]
    rfl
  | badId hs hc hid =>
    unfold Line.read
    dsimp only
    rw [trim_ne_nil_of_comma hs, hs, Text.splitFirst_append hc]
    simp only [Id.ofDigits?_eq_none_iff.mpr hid, Bool.false_eq_true, if_false]

theorem reads_read (s : List Char) : Reads s (Line.read s) := by
  by_cases hb : ∀ c ∈ s, Text.isBlank c = true
  · rw [(Reads.blank hb).read_eq]
    exact .blank hb
  · by_cases hc : ',' ∈ Text.trim s
    · obtain ⟨token, rest, hs, hct⟩ := List.eq_append_cons_of_mem hc
      by_cases hid : ∃ id : Id, Text.trim token = id.digits
      · obtain ⟨id, hid⟩ := hid
        rw [(Reads.entry hs hct hid).read_eq]
        exact .entry hs hct hid
      · simp only [not_exists] at hid
        rw [(Reads.badId hs hct hid).read_eq]
        exact .badId hs hct hid
    · rw [(Reads.missingComma hb hc).read_eq]
      exact .missingComma hb hc

/-- **Every line is of exactly one kind, and `Line.read` finds it.** -/
theorem reads_iff {s : List Char} {k : Line} : Reads s k ↔ Line.read s = k :=
  ⟨Reads.read_eq, fun h => h ▸ reads_read s⟩

/-! ## What a line does not show -/

theorem Line.read_eq_of_trim_eq {s t : List Char} (h : Text.trim s = Text.trim t) :
    Line.read s = Line.read t := by
  unfold Line.read
  rw [h]

/-- So a text whose lines end with a carriage return in front of the line feed reads like any other. -/
theorem Line.read_append_return (l : List Char) : Line.read (l ++ ['\r']) = Line.read l :=
  Line.read_eq_of_trim_eq (Text.trim_append_of_blank (by decide))

theorem Line.read_trimEnd (l : List Char) : Line.read (Text.trimEnd l) = Line.read l :=
  Line.read_eq_of_trim_eq (Text.trim_trimEnd l)

/-- A line that is written as an identifier, a comma and a value without blanks at its end. -/
theorem Line.read_entry {id : Id} {value : List Char} :
    Line.read (id.digits ++ ',' :: value) = .entry id (Text.trim value) := by
  have hcomma : ',' ∉ id.digits := Id.not_mem_digits (by decide)
  -- Behind the digits only the end of the value can be trimmed off.
  have hstart : Text.trimStart (id.digits ++ ',' :: value) = id.digits ++ ',' :: value := by
    rw [Text.trimStart_eq_self_iff]
    intro c hc
    have hmem : c ∈ id.digits := by
      simp only [Id.digits, List.cons_append, List.head?_cons, Option.mem_def,
        Option.some.injEq] at hc
      rw [← hc]
      simp [Id.digits]
    exact isBlank_of_isDigit (Id.isDigit_of_mem_digits hmem)
  have hend : Text.trimEnd (id.digits ++ ',' :: value) = id.digits ++ ',' :: Text.trimEnd value := by
    obtain ⟨t, ht, hv⟩ := Text.trimEnd_append_trimmed value
    conv_lhs => rw [hv]
    rw [← List.cons_append, ← List.append_assoc, Text.trimEnd_append_of_blank ht,
      Text.trimEnd_eq_self_iff]
    intro c hc
    by_cases hnil : Text.trimEnd value = []
    · rw [hnil, List.getLast?_append] at hc
      simp only [List.getLast?_singleton, Option.some_or, Option.mem_def, Option.some.injEq] at hc
      rw [← hc]
      decide
    · refine Text.isBlank_getLast?_trimEnd value c ?_
      rw [List.getLast?_append, List.getLast?_cons_of_ne_nil hnil] at hc
      simpa [List.getLast?_eq_some_getLast hnil] using hc
  have hs : Text.trim (id.digits ++ ',' :: value) = id.digits ++ ',' :: Text.trimEnd value := by
    unfold Text.trim
    rw [hstart, hend]
  rw [(Reads.entry hs hcomma id.trim_digits).read_eq, Text.trim_trimEnd]

/-! ## The lines of a text -/

/-- What the lines of a text are, in order. -/
def readings (s : List Char) : List Line :=
  (Text.cut s).map Line.read

theorem readings_append (a b : List Char) :
    readings (a ++ '\n' :: b) = readings a ++ readings b :=
  Text.map_cut_append Line.read_append_return a b

theorem readings_withReturns (s : List Char) : readings (Text.withReturns s) = readings s :=
  Text.map_cut_withReturns Line.read_append_return s

theorem readings_flatMap {ls : List (List Char)} (h : ∀ l ∈ ls, '\n' ∉ l) (t : List Char) :
    readings (ls.flatMap (· ++ ['\n']) ++ t) = ls.map Line.read ++ readings t :=
  Text.map_cut_flatMap Line.read_append_return h t

theorem readings_of_not_mem {s : List Char} (h : '\n' ∉ s) : readings s = [Line.read s] := by
  unfold readings
  rw [Text.cut_of_not_mem h]
  rfl

end Property
end Infochart
