import Infochart.Proofs.Sheet.Carried

/-!
# The lines that a merge keeps

A merge looks at the text of each line, and the reader looks at what the line says. The two agree:
whether a line is kept depends on its reading alone (`isKept_eq`), so the kept readings of a
description are those of its readings that have a kept identifier and something behind the comma. The
reader then takes the last line of each identifier. `lastValue_filter_keeps` compares the last line of
all with the last line that is kept: they are the same unless the last line of all has nothing behind
its comma.
-/

namespace Infochart
namespace Sheet

open Property (Id Known Value Line Reads readings entriesOf)

/-! ## Readings -/

/-- Whether a line is kept, by what it is read as. -/
def keeps : Line → Bool
  | .entry id value => isKeptId id && !value.isEmpty
  | _ => false

theorem isEmpty_trim (s : List Char) : (Text.trim s).isEmpty = Text.allBlank s := by
  rw [Bool.eq_iff_iff, List.isEmpty_iff]
  exact Text.trim_eq_nil_iff

/-- **Whether a line is kept depends on its reading alone.** -/
theorem isKept_eq (l : List Char) : isKept l = keeps (Line.read l) := by
  have hreads := Property.reads_read l
  unfold isKept
  cases hread : Line.read l with
  | blank =>
    rw [hread] at hreads
    cases hreads with
    | blank hb =>
      have hnil : Text.trim l = [] := Text.trim_eq_nil_iff.2 (Text.allBlank_iff.2 hb)
      rw [hnil]
      rfl
  | entry id value =>
    rw [hread] at hreads
    cases hreads with
    | entry hs hc hid =>
      rw [hs, Text.splitFirst_append hc]
      simp only [hid, Id.ofDigits?_digits, Option.any_some, keeps, isEmpty_trim]
  | malformed e =>
    rw [hread] at hreads
    cases hreads with
    | missingComma hb hc =>
      rw [Text.splitFirst_eq_none_iff.2 hc]
      rfl
    | badId hs hc hid =>
      rw [hs, Text.splitFirst_append hc]
      simp only [Id.ofDigits?_eq_none_iff.2 hid, Option.any_none, Bool.false_and]
      rfl

theorem isKept_trimEnd (l : List Char) : isKept (Text.trimEnd l) = isKept l := by
  rw [isKept_eq, isKept_eq, Line.read_trimEnd]

/-- The empty piece behind the last line feed is not kept, so it does not matter whether it counts as a
    line. -/
theorem filter_isKept_lines (s : List Char) :
    (Text.lines s).filter isKept = (Text.cut s).filter isKept := by
  unfold Text.lines
  simp only
  split
  · rename_i hlast
    have hempty : isKept [] = false := rfl
    conv_rhs => rw [← List.dropLast_append_getLast? _ hlast]
    simp [hempty]
  · rfl

/-- **The kept readings are those that say so.** -/
theorem keptReadings_eq (base : List Char) :
    keptReadings base = (readings base).filter keeps := by
  unfold keptReadings readings
  rw [filter_isKept_lines, List.filter_map]
  congr 1
  exact List.filter_congr fun l _ => isKept_eq l

/-! ## The last line of an identifier -/

theorem mem_keys_filter {id : Id} {ks : List Line} {p : Line → Bool}
    (h : id ∈ (entriesOf (ks.filter p)).map Prod.fst) : id ∈ (entriesOf ks).map Prod.fst := by
  have hsub : (entriesOf (ks.filter p)).Sublist (entriesOf ks) :=
    List.Sublist.filterMap _ List.filter_sublist
  exact (hsub.map Prod.fst).subset h

/-- A line of an identifier with none of its lines behind it. -/
theorem lastValue_last {id : Id} {value : List Char} {before after : List Line}
    (h : id ∉ (entriesOf after).map Prod.fst) :
    lastValue id (before ++ .entry id value :: after) = some (Property.decodeValue value) := by
  have hentry : Line.entry? (.entry id value) = some (id, Property.decodeValue value) := rfl
  rw [lastValue_append, lastValue_cons, lastValue_eq_none_iff.2 h, lastValue_singleton hentry,
    if_pos rfl]
  rfl

/-- An identifier has no line at all, or it has a last one. -/
theorem exists_last (id : Id) (ks : List Line) :
    id ∉ (entriesOf ks).map Prod.fst ∨ ∃ before value after,
      ks = before ++ .entry id value :: after ∧ id ∉ (entriesOf after).map Prod.fst := by
  induction ks using List.reverseRecOn with
  | nil => exact .inl List.not_mem_nil
  | append_singleton ks k ih =>
    by_cases hk : ∃ value, k = .entry id value
    · obtain ⟨value, rfl⟩ := hk
      exact .inr ⟨ks, value, [], rfl, List.not_mem_nil⟩
    -- The line at the end is not one of the identifier, so the last one is found before it.
    · have hnone : id ∉ (entriesOf [k]).map Prod.fst := by
        intro hmem
        cases k with
        | entry j value =>
          obtain rfl : id = j := List.mem_singleton.1 hmem
          exact hk ⟨value, rfl⟩
        | blank => cases hmem
        | malformed e => cases hmem
      rcases ih with hnot | ⟨before, value, after, rfl, hafter⟩
      · left
        rw [Property.entriesOf_append, List.map_append, List.mem_append]
        exact fun hmem => hmem.elim hnot hnone
      · right
        refine ⟨before, value, after ++ [k], by simp, ?_⟩
        rw [Property.entriesOf_append, List.map_append, List.mem_append]
        exact fun hmem => hmem.elim hafter hnone

section Filtered

variable {id : Id} {before after : List Line} (hid : isKeptId id = true)
  (h : id ∉ (entriesOf after).map Prod.fst)
include hid h

/-- A last line with something behind its comma is also the last one that is kept. -/
theorem lastValue_filter_of_filled {value : List Char} (hvalue : value ≠ []) :
    lastValue id ((before ++ .entry id value :: after).filter keeps) =
      some (Property.decodeValue value) := by
  have hkeeps : keeps (.entry id value) = true := by
    simp [keeps, hid, hvalue]
  rw [List.filter_append, List.filter_cons_of_pos hkeeps]
  exact lastValue_last fun hmem => h (mem_keys_filter hmem)

omit hid in
/-- A last line with nothing behind its comma leaves the word to the lines before it. -/
theorem lastValue_filter_of_nil :
    lastValue id ((before ++ .entry id [] :: after).filter keeps) =
      lastValue id (before.filter keeps) := by
  have hkeeps : ¬ keeps (.entry id []) = true := by
    simp [keeps]
  rw [List.filter_append, List.filter_cons_of_neg hkeeps, lastValue_append,
    lastValue_eq_none_iff.2 fun hmem => h (mem_keys_filter hmem), Option.none_or]

end Filtered

/-- **A value that is not empty comes from a line that is kept.** -/
theorem lastValue_filter_keeps {id : Id} (hid : isKeptId id = true) {ks : List Line}
    (h : (lastValue id ks).any (!·.isEmpty) = true) :
    lastValue id (ks.filter keeps) = lastValue id ks := by
  rcases exists_last id ks with hnot | ⟨before, value, after, rfl, hafter⟩
  · rw [lastValue_eq_none_iff.2 hnot] at h
    cases h
  · rw [lastValue_last hafter] at h ⊢
    refine lastValue_filter_of_filled hid hafter ?_
    rintro rfl
    cases h

/-! ## Kept values of a merged description -/

theorem allBlank_of_hasValue {s : String} {id : Id}
    (h : (Property.read s).map.hasValue id = true) : Text.allBlank s.toList = false := by
  rw [← Bool.not_eq_true]
  intro hblank
  unfold Property.read Property.parse at h
  rw [hblank] at h
  cases h

theorem hasValue_eq_any {s : String} (h : Text.allBlank s.toList = false) (id : Id) :
    (Property.read s).map.hasValue id =
      (lastValue id (readings s.toList)).any (!·.isEmpty) := by
  unfold Property.Map.hasValue Property.read
  rw [get?_parse h]

/-- **What a merged description says under a kept identifier comes from the kept lines.** -/
theorem Grid.get?_merged_of_isKeptId {g : Grid} (hg : ∀ unit ∈ g.headers[1]?, '\n' ∉ unit.toList)
    (base : String) {id : Id} (hid : isKeptId id = true) :
    (Property.read (String.ofList (keptLines base.toList ++ g.dataLines))).map.get? id =
      lastValue id ((readings base.toList).filter keeps) := by
  have hnot : id ∉ g.entries.map Prod.fst := by
    intro hmem
    rw [(g.nodup_entries).2 id hmem] at hid
    cases hid
  have hwritten : Property.lookup id g.entries.reverse = none :=
    Property.lookup_reverse_eq_none_iff.2 hnot
  rw [g.read_merged, get?_parse (g.allBlank_merged _), ← keptReadings_eq]
  unfold lastValue
  rw [entries_merged hg, List.reverse_append, Property.lookup_append, hwritten, Option.none_or]

end Sheet
end Infochart
