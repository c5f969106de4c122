import Infochart.Text.Lines
import Infochart.Text.Search
import Mathlib.Data.List.Basic

/-!
# Laws of the cut into lines

`cut` is the library's `splitOn` at the line feeds, with the carriage return taken off every piece
but the last (`cut_eq_physicalLines`). A reader that does not see a carriage return at the end of a line
therefore cannot tell the two apart (`map_cut`), and for such a reader the lines of `a`, a line feed
and `b` are the lines of `a` followed by those of `b` (`map_cut_append`). That is the form in which
every statement about a text built line by line uses the cut.
-/

namespace Infochart
namespace Text

/-- A line without the carriage return that belongs to its line end. -/
def dropReturn (l : List Char) : List Char :=
  if l.getLast? = some '\r' then l.dropLast else l

theorem dropReturn_cons {c : Char} {l : List Char} (h : l ≠ []) :
    dropReturn (c :: l) = c :: dropReturn l := by
  cases l with
  | nil => exact absurd rfl h
  | cons d r =>
    unfold dropReturn
    rw [List.getLast?_cons_cons]
    by_cases hr : (d :: r).getLast? = some '\r'
    · rw [if_pos hr, if_pos hr]
      rfl
    · rw [if_neg hr, if_neg hr]

theorem dropReturn_singleton {c : Char} (h : c ≠ '\r') : dropReturn [c] = [c] := by
  simp [dropReturn, h]

/-! ## One line at a time -/

theorem cut_of_not_mem {s : List Char} (h : '\n' ∉ s) : cut s = [s] := by
  induction s with
  | nil => rfl
  | cons c r ih =>
    simp only [List.mem_cons, not_or] at h
    rw [cut.eq_def]
    split
    · simp_all
    · simp_all
    · simp_all
    · rename_i heq
      cases heq
      rw [ih h.2]

theorem cut_cons {c : Char} {r l : List Char} {ls : List (List Char)} (hc : c ≠ '\n')
    (hr : c = '\r' → r.head? ≠ some '\n') (h : cut r = l :: ls) :
    cut (c :: r) = (c :: l) :: ls := by
  rw [cut.eq_def]
  split
  · simp_all
  · simp_all
  · rename_i heq
    cases heq
    exact absurd rfl (hr rfl)
  · rename_i heq
    cases heq
    rw [h]

theorem cut_append_of_not_mem {a b : List Char} (h : '\n' ∉ a) :
    cut (a ++ '\n' :: b) = dropReturn a :: cut b := by
  induction a with
  | nil => rfl
  | cons c r ih =>
    simp only [List.mem_cons, not_or] at h
    have hc : c ≠ '\n' := fun he => h.1 he.symm
    cases r with
    | nil =>
      by_cases hr : c = '\r'
      · subst hr
        rfl
      · rw [dropReturn_singleton hr]
        exact cut_cons hc (fun he => absurd he hr) (ih h.2)
    | cons d r =>
      rw [dropReturn_cons (by simp)]
      refine cut_cons hc (fun _ => ?_) (ih h.2)
      simp only [List.mem_cons, not_or] at h
      simpa using fun he => h.2.1 he.symm

/-- A text with a line feed is its first line, the line feed and the rest, so an induction over the
    lines of a text needs one case for the last line and one for every other. -/
theorem lineInduction {P : List Char → Prop} (last : ∀ l, '\n' ∉ l → P l)
    (line : ∀ l r, '\n' ∉ l → P r → P (l ++ '\n' :: r)) (s : List Char) : P s := by
  induction hn : s.length using Nat.strongRecOn generalizing s with
  | ind n ih =>
    by_cases hs : '\n' ∈ s
    · obtain ⟨l, r, rfl, hl⟩ := List.eq_append_cons_of_mem hs
      refine line l r hl (ih r.length ?_ r rfl)
      simp only [List.length_append, List.length_cons] at hn
      omega
    · exact last s hs

/-! ## The whole cut -/

/-- The pieces between the line feeds, each without a carriage return right before its line feed.
    Behind the last piece no line feed stands, so it keeps one. -/
def physicalLines (s : List Char) : List (List Char) :=
  (s.splitOn '\n').dropLast.map dropReturn ++ (s.splitOn '\n').getLast?.toList

theorem cut_eq_physicalLines (s : List Char) : cut s = physicalLines s := by
  unfold physicalLines
  induction s using lineInduction with
  | last l hl => rw [cut_of_not_mem hl, List.splitOn_eq_singleton hl]; rfl
  | line l r hl ih =>
    rw [cut_append_of_not_mem hl, List.splitOn_append_cons_self_of_not_mem hl, ih]
    have hne := List.splitOn_ne_nil '\n' r
    cases hp : r.splitOn '\n' with
    | nil => exact absurd hp hne
    | cons p ps => simp

theorem not_mem_of_mem_cut {s l : List Char} (h : l ∈ cut s) : '\n' ∉ l := by
  induction s using lineInduction with
  | last p hp =>
    rw [cut_of_not_mem hp, List.mem_singleton] at h
    exact h ▸ hp
  | line p r hp ih =>
    rw [cut_append_of_not_mem hp, List.mem_cons] at h
    rcases h with rfl | h
    · intro hm
      unfold dropReturn at hm
      split at hm
      · exact hp ((List.dropLast_subset p) hm)
      · exact hp hm
    · exact ih h

section Readers

variable {β : Type} {f : List Char → β} (hf : ∀ l, f (l ++ ['\r']) = f l)
include hf

theorem apply_dropReturn (l : List Char) : f (dropReturn l) = f l := by
  unfold dropReturn
  split
  · rename_i h
    conv_rhs => rw [← List.dropLast_append_getLast? _ h]
    exact (hf _).symm
  · rfl

/-- A reader that does not see the carriage returns reads the pieces between the line feeds. -/
theorem map_cut (s : List Char) : (cut s).map f = (s.splitOn '\n').map f := by
  induction s using lineInduction with
  | last l hl => rw [cut_of_not_mem hl, List.splitOn_eq_singleton hl]
  | line l r hl ih =>
    rw [cut_append_of_not_mem hl, List.splitOn_append_cons_self_of_not_mem hl, List.map_cons,
      List.map_cons, ih, apply_dropReturn hf]

theorem map_cut_append (a b : List Char) :
    (cut (a ++ '\n' :: b)).map f = (cut a).map f ++ (cut b).map f := by
  rw [map_cut hf, map_cut hf, map_cut hf, List.splitOn_append_cons_self, List.map_append]

/-- Lines written one after the other, each with a line feed behind it. -/
theorem map_cut_flatMap {ls : List (List Char)} (h : ∀ l ∈ ls, '\n' ∉ l) (t : List Char) :
    (cut (ls.flatMap (· ++ ['\n']) ++ t)).map f = ls.map f ++ (cut t).map f := by
  induction ls with
  | nil => rfl
  | cons l r ih =>
    have hl := h l List.mem_cons_self
    have hr := fun l' hl' => h l' (List.mem_cons_of_mem l hl')
    simp only [List.flatMap_cons, List.append_assoc, List.map_cons, List.cons_append,
      List.nil_append]
    rw [map_cut_append hf, cut_of_not_mem hl, ih hr]
    rfl

end Readers

/-! ## Line ends with a carriage return -/

/-- A text with a carriage return put before each line feed. -/
def withReturns (s : List Char) : List Char :=
  s.flatMap fun c => if c = '\n' then ['\r', '\n'] else [c]

theorem withReturns_of_not_mem {s : List Char} (h : '\n' ∉ s) : withReturns s = s := by
  induction s with
  | nil => rfl
  | cons c r ih =>
    simp only [List.mem_cons, not_or] at h
    have hc : c ≠ '\n' := fun he => h.1 he.symm
    unfold withReturns at *
    rw [List.flatMap_cons, if_neg hc, ih h.2]
    rfl

theorem withReturns_append (a b : List Char) :
    withReturns (a ++ b) = withReturns a ++ withReturns b := by
  simp [withReturns]

theorem map_cut_withReturns {β : Type} {f : List Char → β} (hf : ∀ l, f (l ++ ['\r']) = f l)
    (s : List Char) : (cut (withReturns s)).map f = (cut s).map f := by
  induction s using lineInduction with
  | last l hl => rw [withReturns_of_not_mem hl]
  | line l r hl ih =>
    have hsplit : withReturns (l ++ '\n' :: r) = (l ++ ['\r']) ++ '\n' :: withReturns r := by
      rw [withReturns_append, withReturns_of_not_mem hl]
      simp [withReturns]
    have hlr : '\n' ∉ l ++ ['\r'] := by simpa using hl
    rw [hsplit, map_cut_append hf, map_cut_append hf, cut_of_not_mem hlr, cut_of_not_mem hl, ih]
    simp [hf]

/-! ## The lines without an empty one at the end -/

theorem cut_ne_nil (s : List Char) : cut s ≠ [] := by
  induction s using lineInduction with
  | last l hl => simp [cut_of_not_mem hl]
  | line l r hl ih => simp [cut_append_of_not_mem hl]

theorem mem_cut_of_mem_lines {s l : List Char} (h : l ∈ lines s) : l ∈ cut s := by
  unfold lines at h
  simp only at h
  split at h
  · exact (List.dropLast_sublist _).subset h
  · exact h

theorem lines_append_of_not_mem {a b : List Char} (h : '\n' ∉ a) :
    lines (a ++ '\n' :: b) = dropReturn a :: lines b := by
  -- There is a line behind the line feed, so the last line is one of `b`.
  obtain ⟨l, ls, hb⟩ := List.exists_cons_of_ne_nil (cut_ne_nil b)
  unfold lines
  rw [cut_append_of_not_mem h, hb]
  simp only [List.getLast?_cons_cons]
  split
  · rw [List.dropLast_cons_cons]
  · rfl

/-- Lines without a line end in them, each with a line feed behind it. -/
theorem lines_flatMap {ls : List (List Char)} (h : ∀ l ∈ ls, '\n' ∉ l ∧ l.getLast? ≠ some '\r')
    (t : List Char) : lines (ls.flatMap (· ++ ['\n']) ++ t) = ls ++ lines t := by
  induction ls with
  | nil => rfl
  | cons l r ih =>
    obtain ⟨hl, hreturn⟩ := h l List.mem_cons_self
    have hr := fun l' hl' => h l' (List.mem_cons_of_mem l hl')
    have hdrop : dropReturn l = l := if_neg hreturn
    simp only [List.flatMap_cons, List.append_assoc, List.cons_append, List.nil_append]
    rw [lines_append_of_not_mem hl, hdrop, ih hr]

/-! ## The first separator -/

theorem splitFirst_eq_none_iff {sep : Char} {s : List Char} :
    splitFirst sep s = none ↔ sep ∉ s := by
  induction s with
  | nil => simp [splitFirst]
  | cons c r ih =>
    unfold splitFirst
    by_cases hc : c = sep
    · simp [hc]
    · have hc' : sep ≠ c := fun he => hc he.symm
      simp [hc, hc', ih]

theorem splitFirst_append {sep : Char} {a b : List Char} (h : sep ∉ a) :
    splitFirst sep (a ++ sep :: b) = some (a, b) := by
  induction a with
  | nil => simp [splitFirst]
  | cons c r ih =>
    simp only [List.mem_cons, not_or] at h
    have hc : c ≠ sep := fun he => h.1 he.symm
    simp [splitFirst, hc, ih h.2]

theorem splitFirst_eq_some_iff {sep : Char} {s a b : List Char} :
    splitFirst sep s = some (a, b) ↔ s = a ++ sep :: b ∧ sep ∉ a := by
  constructor
  · intro h
    have hs : sep ∈ s := by
      by_contra hn
      rw [splitFirst_eq_none_iff.mpr hn] at h
      exact absurd h (by simp)
    obtain ⟨a', b', rfl, ha⟩ := List.eq_append_cons_of_mem hs
    rw [splitFirst_append ha] at h
    cases h
    exact ⟨rfl, ha⟩
  · rintro ⟨rfl, h⟩
    exact splitFirst_append h

end Text
end Infochart
