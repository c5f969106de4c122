import Infochart.Text.Blank
import Mathlib.Data.List.DropRight

/-!
# Laws of trimming

What the readers need from `trim`: which texts it leaves alone (`trim_eq_self_iff`), which it
empties (`trim_eq_nil_iff`), and that blanks put behind a text do not show in it
(`trim_append_of_blank`). The last is why a carriage return in front of a line end is never seen
by a reader of trimmed lines, whichever way the line was cut.
-/

namespace Infochart
namespace Text

theorem allBlank_iff {s : List Char} : allBlank s = true ↔ ∀ c ∈ s, isBlank c = true := by
  simp [allBlank]

theorem allBlank_append {s t : List Char} :
    allBlank (s ++ t) = true ↔ allBlank s = true ∧ allBlank t = true := by
  simp [allBlank]

/-- The end of a text is trimmed by the library's own `rdropWhile`. -/
theorem trimEnd_eq_rdropWhile (s : List Char) : trimEnd s = s.rdropWhile isBlank := rfl

/-! ## What trimming empties -/

theorem trimStart_eq_nil_iff {s : List Char} : trimStart s = [] ↔ allBlank s = true := by
  rw [allBlank_iff]
  exact List.dropWhile_eq_nil_iff

theorem trimEnd_eq_nil_iff {s : List Char} : trimEnd s = [] ↔ allBlank s = true := by
  rw [allBlank_iff, trimEnd_eq_rdropWhile]
  exact List.rdropWhile_eq_nil_iff

theorem allBlank_trimStart {s : List Char} : allBlank (trimStart s) = allBlank s := by
  rw [Bool.eq_iff_iff]
  constructor
  · intro h
    -- What `trimStart` keeps begins with a character that is not blank.
    cases hs : trimStart s with
    | nil => exact trimStart_eq_nil_iff.mp hs
    | cons c r =>
      have hc := List.head?_dropWhile_not isBlank s
      rw [show List.dropWhile isBlank s = c :: r from hs] at hc
      rw [hs, allBlank_iff] at h
      have hb := h c (by simp)
      simp [hb] at hc
  · intro h
    rw [trimStart_eq_nil_iff.mpr h]
    rfl

theorem trim_eq_nil_iff {s : List Char} : trim s = [] ↔ allBlank s = true := by
  unfold trim
  rw [trimEnd_eq_nil_iff, allBlank_trimStart]

/-! ## Blanks behind a text -/

theorem trimStart_append {s t : List Char} (h : allBlank s = false) :
    trimStart (s ++ t) = trimStart s ++ t := by
  have hne : trimStart s ≠ [] := by
    intro hn
    rw [trimStart_eq_nil_iff.mp hn] at h
    exact absurd h (by simp)
  unfold trimStart at *
  rw [List.dropWhile_append]
  simp [hne]

theorem trimEnd_append_of_blank {s t : List Char} (h : allBlank t = true) :
    trimEnd (s ++ t) = trimEnd s := by
  rw [allBlank_iff] at h
  unfold trimEnd
  rw [List.reverse_append, List.dropWhile_append_of_pos (by simpa using h)]

theorem trim_append_of_blank {s t : List Char} (h : allBlank t = true) :
    trim (s ++ t) = trim s := by
  by_cases hs : allBlank s = true
  · rw [trim_eq_nil_iff.mpr hs, trim_eq_nil_iff, allBlank_append]
    exact ⟨hs, h⟩
  · unfold trim
    rw [trimStart_append (by simpa using hs), trimEnd_append_of_blank h]

theorem trimEnd_append_trimmed (s : List Char) :
    ∃ t, allBlank t = true ∧ s = trimEnd s ++ t := by
  refine ⟨s.rtakeWhile isBlank, ?_, ?_⟩
  · rw [allBlank_iff]
    exact fun c hc => List.mem_rtakeWhile_imp hc
  · exact List.rdropWhile_append_rtakeWhile.symm

theorem trim_trimEnd (s : List Char) : trim (trimEnd s) = trim s := by
  obtain ⟨t, ht, hs⟩ := trimEnd_append_trimmed s
  conv_rhs => rw [hs]
  exact (trim_append_of_blank ht).symm

/-! ## What trimming leaves alone -/

theorem trimStart_eq_self_iff {s : List Char} :
    trimStart s = s ↔ ∀ c ∈ s.head?, isBlank c = false := by
  unfold trimStart
  cases s with
  | nil => simp
  | cons c r =>
    rw [List.dropWhile_eq_self_iff]
    simp

theorem trimEnd_eq_self_iff {s : List Char} :
    trimEnd s = s ↔ ∀ c ∈ s.getLast?, isBlank c = false := by
  have h := @trimStart_eq_self_iff s.reverse
  rw [List.head?_reverse] at h
  rw [← h]
  unfold trimEnd trimStart
  constructor
  · intro he
    rw [← he, List.reverse_reverse]
    exact List.dropWhile_idempotent isBlank s.reverse
  · intro he
    rw [he, List.reverse_reverse]

theorem trimEnd_trimEnd (s : List Char) : trimEnd (trimEnd s) = trimEnd s :=
  List.rdropWhile_idempotent isBlank s

/-- What is left at the end is not a blank. -/
theorem isBlank_getLast?_trimEnd (s : List Char) :
    ∀ c ∈ (trimEnd s).getLast?, isBlank c = false :=
  trimEnd_eq_self_iff.1 (trimEnd_trimEnd s)

theorem length_trimEnd_le (s : List Char) : (trimEnd s).length ≤ s.length :=
  (List.rdropWhile_prefix isBlank s).length_le

theorem length_trimStart_le (s : List Char) : (trimStart s).length ≤ s.length :=
  (List.dropWhile_suffix isBlank).length_le

theorem mem_of_mem_trim {s : List Char} {c : Char} (h : c ∈ trim s) : c ∈ s :=
  (List.dropWhile_suffix isBlank).subset ((List.rdropWhile_prefix isBlank _).subset h)

/-- A text is its own trimmed text exactly if neither end is blank. -/
theorem trim_eq_self_iff {s : List Char} :
    trim s = s ↔ (∀ c ∈ s.head?, isBlank c = false) ∧ ∀ c ∈ s.getLast?, isBlank c = false := by
  rw [← trimStart_eq_self_iff, ← trimEnd_eq_self_iff]
  unfold trim
  constructor
  · intro h
    -- Neither trim may shorten the text, so the first keeps all of it.
    have hlen : (trimStart s).length = s.length := by
      have h1 := length_trimEnd_le (trimStart s)
      have h2 := length_trimStart_le s
      rw [h] at h1
      omega
    have hstart : trimStart s = s := (List.dropWhile_suffix isBlank).eq_of_length hlen
    rw [hstart] at h
    exact ⟨hstart, h⟩
  · rintro ⟨h1, h2⟩
    rw [h1, h2]

theorem trim_trim (s : List Char) : trim (trim s) = trim s := by
  have hend : trimEnd (trim s) = trim s := trimEnd_trimEnd _
  have hstart : trimStart (trim s) = trim s := by
    rw [trimStart_eq_self_iff]
    intro c hc
    -- The end is trimmed off a text that begins without a blank, and a prefix begins alike.
    obtain ⟨t, ht⟩ : trim s <+: trimStart s := List.rdropWhile_prefix isBlank _
    have hhead : (trimStart s).head? = some c := by
      rw [← ht, List.head?_append]
      simp only [Option.mem_def] at hc
      rw [hc]
      rfl
    have := List.head?_dropWhile_not isBlank s
    rw [show List.dropWhile isBlank s = trimStart s from rfl, hhead] at this
    simpa using this
  conv_lhs => rw [trim, hstart, hend]

end Text
end Infochart
