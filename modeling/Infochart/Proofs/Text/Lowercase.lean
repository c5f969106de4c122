import Infochart.Proofs.Text.Ascii
import Infochart.Text.Blank
import Infochart.Text.Lowercase

/-!
# Laws of lower case

A text in lower case stays as it is (`lower_lower`): no character of the table goes to another one of the
table, as the images of a span lie beside every span or between its code points. Small letters of ASCII may
stand for capital ones, since the two go to the same letter and are alike to the final sigma
(`lower_map_toLower`). And a space ends a word for the sigma too, so that the words of a text go to lower
case one by one (`lower_append_space`).
-/

namespace Infochart.Text

/-! ## The table -/

namespace Table

variable {s t : Span} {n m : Nat}

theorem Span.map?_eq_some_iff : s.map? n = some m ↔
    (s.first ≤ n ∧ n ≤ s.last ∧ (n - s.first) % s.stride = 0) ∧ m = s.image + (n - s.first) := by
  unfold Span.map?
  split
  · rename_i h
    simp [h, eq_comm]
  · rename_i h
    simp [h]

/-- Whether the images of a span lie in front of another span, behind it, or between its code points. It is
    computed for all pairs of spans, hence the comparisons of the kernel. -/
def Span.misses (s t : Span) : Bool :=
  Nat.blt (s.image + (s.last - s.first)) t.first || Nat.blt t.last s.image ||
    (Nat.beq t.stride 2 && (Nat.beq s.stride 2 || Nat.beq s.first s.last) &&
      Nat.beq ((s.image + t.first) % 2) 1)

theorem Span.map?_eq_none_of_misses (h : s.misses t = true) (hm : s.map? n = some m) :
    t.map? m = none := by
  obtain ⟨⟨hfirst, hlast, hstride⟩, rfl⟩ := Span.map?_eq_some_iff.1 hm
  rw [Option.eq_none_iff_forall_ne_some]
  intro k hk
  obtain ⟨⟨hfirst', hlast', hstride'⟩, -⟩ := Span.map?_eq_some_iff.1 hk
  simp only [Span.misses, Bool.or_eq_true, Bool.and_eq_true, Nat.blt_eq, Nat.beq_eq] at h
  rcases h with (hfront | hbehind) | ⟨⟨htwo, hstep | hsingle⟩, hodd⟩
  · omega
  · omega
  · rw [hstep] at hstride
    rw [htwo] at hstride'
    omega
  · rw [htwo] at hstride'
    omega

theorem misses_lowercase : (lowercase.all fun s => lowercase.all s.misses) = true := by
  decide +kernel

/-- The stretches of code points in which the letters of the table go to others: no blanks are in them, no
    capitals of ASCII and no surrogates, and U+0130 is not. -/
def lowercaseZones : List (Nat × Nat) :=
  [(0x61, 0x7A), (0xA1, 0x12F), (0x131, 0x167F), (0x1681, 0x1FFF), (0x2060, 0x2FFF),
   (0x3001, 0xD7FF), (0xE000, 0x10FFFF)]

theorem images_in_zones : ∀ s ∈ lowercase,
    ∃ z ∈ lowercaseZones, z.1 ≤ s.image ∧ s.image + (s.last - s.first) ≤ z.2 := by
  decide +kernel

theorem image_in_zones (h : lowercase.findSome? (·.map? n) = some m) :
    inRanges lowercaseZones m = true := by
  obtain ⟨s, hs, hm⟩ := List.exists_of_findSome?_eq_some h
  obtain ⟨⟨hfirst, hlast, -⟩, rfl⟩ := Span.map?_eq_some_iff.1 hm
  obtain ⟨z, hz, hlow, hhigh⟩ := images_in_zones s hs
  refine List.any_eq_true.2 ⟨z, hz, ?_⟩
  simp only [Bool.and_eq_true, decide_eq_true_eq]
  omega

/-- What a letter of the table goes to is not in the table. -/
theorem findSome?_image (h : lowercase.findSome? (·.map? n) = some m) :
    lowercase.findSome? (·.map? m) = none := by
  obtain ⟨s, hs, hm⟩ := List.exists_of_findSome?_eq_some h
  rw [List.findSome?_eq_none_iff]
  intro t ht
  have hmisses := List.all_eq_true.1 (List.all_eq_true.1 misses_lowercase s hs) t ht
  exact Span.map?_eq_none_of_misses hmisses hm

end Table

/-! ## One character -/

section Zones

variable {n : Nat} (h : inRanges Table.lowercaseZones n = true)
include h

theorem toNat_of_zones : (Char.ofNat n).toNat = n := by
  have hvalid : n.isValidChar := by
    simp [inRanges, Table.lowercaseZones] at h
    unfold Nat.isValidChar
    omega
  unfold Char.ofNat
  rw [dif_pos hvalid]
  rfl

theorem isBlank_of_zones : isBlank (Char.ofNat n) = false := by
  unfold isBlank
  rw [toNat_of_zones h]
  simp [inRanges, Table.lowercaseZones] at h ⊢
  omega

/-- The letters of ASCII that others go to are small ones. -/
theorem toLower_of_zones (hascii : n < 0x80) : (Char.ofNat n).toLower = Char.ofNat n := by
  have hsmall : 0x61 ≤ n := by
    simp [inRanges, Table.lowercaseZones] at h
    omega
  rcases toLower_eq_or_mem (Char.ofNat n) with hlower | hcapital
  · exact hlower
  · have hall : ∀ c ∈ capitals, c.toNat < 0x61 := by decide
    have hlt := hall _ hcapital
    rw [toNat_of_zones h] at hlt
    omega

end Zones

variable {c d : Char}

theorem lowerChar_of_ascii (h : c.toNat < 0x80) : lowerChar c = [c.toLower] :=
  if_pos h

theorem toNat_toLower_lt (h : c.toNat < 0x80) : c.toLower.toNat < 0x80 := by
  have hascii := apply_toLower (fun c => decide (c.toNat < 0x80)) (by decide) c
  simpa [h] using hascii

theorem lowerChar_of_zones {n : Nat} (h : inRanges Table.lowercaseZones n = true)
    (hnone : Table.lowercase.findSome? (·.map? n) = none) :
    lowerChar (Char.ofNat n) = [Char.ofNat n] := by
  unfold lowerChar
  rw [toNat_of_zones h]
  split
  · rw [toLower_of_zones h ‹_›]
  · rw [if_neg, hnone]
    rintro rfl
    exact absurd h (by decide)

/-- **A character of lower case stays as it is.** -/
theorem lowerChar_of_mem (h : d ∈ lowerChar c) : lowerChar d = [d] := by
  by_cases hascii : c.toNat < 0x80
  · rw [lowerChar_of_ascii hascii, List.mem_singleton] at h
    have htwice : c.toLower.toLower = c.toLower := apply_toLower Char.toLower (by decide) c
    rw [h, lowerChar_of_ascii (toNat_toLower_lt hascii), htwice]
  · unfold lowerChar at h
    rw [if_neg hascii] at h
    split at h
    · -- The capital i with a dot is the one letter that goes to two characters.
      have hall : ∀ d ∈ ['i', Char.ofNat 0x307], lowerChar d = [d] := by decide +kernel
      exact hall d h
    · split at h
      · rename_i n hn
        rw [List.mem_singleton.1 h]
        exact lowerChar_of_zones (Table.image_in_zones hn) (Table.findSome?_image hn)
      · rename_i hnone
        rw [List.mem_singleton.1 h]
        unfold lowerChar
        rw [if_neg hascii, if_neg ‹_›, hnone]

theorem isBlank_toLower (c : Char) : isBlank c.toLower = isBlank c :=
  apply_toLower isBlank (by decide) c

/-- No blank comes out where none went in. -/
theorem isBlank_of_mem_lowerChar (hc : isBlank c = false) (h : d ∈ lowerChar c) :
    isBlank d = false := by
  unfold lowerChar at h
  split at h
  · rw [List.mem_singleton.1 h]
    rwa [isBlank_toLower]
  · split at h
    · have hall : ∀ d ∈ ['i', Char.ofNat 0x307], isBlank d = false := by decide
      exact hall d h
    · split at h
      · rename_i n hn
        rw [List.mem_singleton.1 h]
        exact isBlank_of_zones (Table.image_in_zones hn)
      · rwa [List.mem_singleton.1 h]

theorem lowerChar_ne_nil (c : Char) : lowerChar c ≠ [] := by
  unfold lowerChar
  split
  · simp
  · split
    · simp
    · split
      · simp
      · simp

/-! ## Texts -/

theorem lowerAfter_cons (before r : List Char) : lowerAfter before (c :: r) =
    (if c = 'Σ' then [if casedNext before && !casedNext r then 'ς' else 'σ'] else lowerChar c) ++
      lowerAfter (c :: before) r := rfl

theorem mem_lowerAfter {before s : List Char} (h : d ∈ lowerAfter before s) :
    d = 'ς' ∨ d = 'σ' ∨ ∃ c ∈ s, d ∈ lowerChar c := by
  induction s generalizing before with
  | nil => cases h
  | cons c r ih =>
    rw [lowerAfter_cons] at h
    rcases List.mem_append.1 h with hfirst | hrest
    · split at hfirst
      · have hd := List.mem_singleton.1 hfirst
        split at hd
        · exact .inl hd
        · exact .inr (.inl hd)
      · exact .inr (.inr ⟨c, List.mem_cons_self, hfirst⟩)
    · obtain hfinal | hinner | ⟨e, he, hd⟩ := ih hrest
      · exact .inl hfinal
      · exact .inr (.inl hinner)
      · exact .inr (.inr ⟨e, List.mem_cons_of_mem _ he, hd⟩)

theorem lowerChar_of_mem_lower {s : List Char} (h : d ∈ lower s) : lowerChar d = [d] := by
  obtain rfl | rfl | ⟨c, -, hd⟩ := mem_lowerAfter h
  · decide +kernel
  · decide +kernel
  · exact lowerChar_of_mem hd

theorem isBlank_of_mem_lower {s : List Char} (hs : ∀ c ∈ s, isBlank c = false) (h : d ∈ lower s) :
    isBlank d = false := by
  obtain rfl | rfl | ⟨c, hc, hd⟩ := mem_lowerAfter h
  · decide
  · decide
  · exact isBlank_of_mem_lowerChar (hs c hc) hd

theorem lower_ne_nil {s : List Char} (h : s ≠ []) : lower s ≠ [] := by
  cases s with
  | nil => exact absurd rfl h
  | cons c r =>
    unfold lower
    rw [lowerAfter_cons]
    intro hnil
    have hfirst := (List.append_eq_nil_iff.1 hnil).1
    split at hfirst
    · cases hfirst
    · exact lowerChar_ne_nil c hfirst

/-- A text is left alone if all its characters are. What stands around a character matters to a capital
    sigma only, and that is not left alone. -/
theorem lowerAfter_eq_self {before s : List Char} (h : ∀ c ∈ s, lowerChar c = [c]) :
    lowerAfter before s = s := by
  have hsigma : lowerChar 'Σ' ≠ ['Σ'] := by decide +kernel
  induction s generalizing before with
  | nil => rfl
  | cons c r ih =>
    have hc := h c List.mem_cons_self
    have hne : c ≠ 'Σ' := by
      rintro rfl
      exact hsigma hc
    rw [lowerAfter_cons, if_neg hne, hc, ih fun d hd => h d (List.mem_cons_of_mem _ hd)]
    rfl

/-- **A text in lower case stays as it is.** The rule for the final sigma, which makes lower case depend on
    the neighbours, needs no case of its own: it applies to the capital sigma, and none is left. -/
theorem lower_lower (s : List Char) : lower (lower s) = lower s :=
  lowerAfter_eq_self fun _ => lowerChar_of_mem_lower

/-! ## The final sigma -/

theorem casedNext_cons {c : Char} {r : List Char} :
    casedNext (c :: r) = if isIgnorable c then casedNext r else isCased c := by
  unfold casedNext
  rw [List.dropWhile_cons]
  by_cases h : isIgnorable c = true
  · simp [h]
  · simp [h]

/-- What stands before a text is looked at only for whether a letter with a case comes next in it. -/
theorem lowerAfter_congr {before before' s : List Char} (h : casedNext before = casedNext before') :
    lowerAfter before s = lowerAfter before' s := by
  induction s generalizing before before' with
  | nil => rfl
  | cons c r ih =>
    have hnext : casedNext (c :: before) = casedNext (c :: before') := by
      rw [casedNext_cons, casedNext_cons, h]
    rw [lowerAfter_cons, lowerAfter_cons, h, ih hnext]

/-! ## Small letters for capital ones -/

theorem toLower_eq_sigma_iff : c.toLower = 'Σ' ↔ c = 'Σ' := by
  have hsigma := apply_toLower (fun c => decide (c = 'Σ')) (by decide) c
  exact decide_eq_decide.1 hsigma

theorem lowerChar_toLower (c : Char) : lowerChar c.toLower = lowerChar c :=
  apply_toLower lowerChar (by decide) c

theorem isCased_toLower (c : Char) : isCased c.toLower = isCased c :=
  apply_toLower isCased (by decide) c

/-- Case rules look through no letter of ASCII. -/
theorem letters_not_ignorable : ∀ r ∈ Table.ignorable,
    r.2 < 0x41 ∨ 0x5A < r.1 ∧ r.2 < 0x61 ∨ 0x7A < r.1 := by
  decide +kernel

theorem isIgnorable_of_letter
    (h : 0x41 ≤ c.toNat ∧ c.toNat ≤ 0x5A ∨ 0x61 ≤ c.toNat ∧ c.toNat ≤ 0x7A) :
    isIgnorable c = false := by
  unfold isIgnorable inRanges
  rw [List.any_eq_false]
  intro r hr
  have hr := letters_not_ignorable r hr
  simp only [Bool.and_eq_true, decide_eq_true_eq]
  omega

theorem isIgnorable_toLower (c : Char) : isIgnorable c.toLower = isIgnorable c := by
  have hletters : ∀ c ∈ capitals, (0x41 ≤ c.toNat ∧ c.toNat ≤ 0x5A) ∧
      0x61 ≤ c.toLower.toNat ∧ c.toLower.toNat ≤ 0x7A := by decide
  refine apply_toLower isIgnorable (fun c hc => ?_) c
  rw [isIgnorable_of_letter (.inl (hletters c hc).1), isIgnorable_of_letter (.inr (hletters c hc).2)]

theorem casedNext_map_toLower (s : List Char) : casedNext (s.map Char.toLower) = casedNext s := by
  induction s with
  | nil => rfl
  | cons c r ih =>
    rw [List.map_cons, casedNext_cons, casedNext_cons, ih, isIgnorable_toLower, isCased_toLower]

theorem lowerAfter_map_toLower (before s : List Char) :
    lowerAfter (before.map Char.toLower) (s.map Char.toLower) = lowerAfter before s := by
  induction s generalizing before with
  | nil => rfl
  | cons c r ih =>
    have hrest := ih (c :: before)
    rw [List.map_cons] at hrest
    rw [List.map_cons, lowerAfter_cons, lowerAfter_cons, hrest]
    simp only [toLower_eq_sigma_iff, casedNext_map_toLower, lowerChar_toLower]

/-- **The case of the letters of ASCII does not show in lower case.** -/
theorem lower_map_toLower (s : List Char) : lower (s.map Char.toLower) = lower s :=
  lowerAfter_map_toLower [] s

/-! ## Words -/

theorem casedNext_append_space (s r : List Char) : casedNext (s ++ ' ' :: r) = casedNext s := by
  have hignorable : isIgnorable ' ' = false := by decide +kernel
  have hcased : isCased ' ' = false := by decide +kernel
  induction s with
  | nil =>
    rw [List.nil_append, casedNext_cons, hignorable, hcased]
    rfl
  | cons c s ih => rw [List.cons_append, casedNext_cons, casedNext_cons, ih]

theorem lowerAfter_append_space (before s r : List Char) :
    lowerAfter before (s ++ ' ' :: r) = lowerAfter before s ++ ' ' :: lower r := by
  induction s generalizing before with
  | nil =>
    have hspace : casedNext (' ' :: before) = casedNext [] := casedNext_append_space [] before
    rw [List.nil_append, lowerAfter_cons, lowerAfter_congr hspace]
    rfl
  | cons c s ih =>
    rw [List.cons_append, lowerAfter_cons, lowerAfter_cons, casedNext_append_space, ih,
      List.append_assoc]

/-- **A space ends a word**: what is on its sides goes to lower case by itself. -/
theorem lower_append_space (s r : List Char) : lower (s ++ ' ' :: r) = lower s ++ ' ' :: lower r :=
  lowerAfter_append_space [] s r

end Infochart.Text
