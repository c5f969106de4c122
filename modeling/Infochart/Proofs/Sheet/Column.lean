import Infochart.Proofs.Sheet.Edits
import Mathlib.Data.Char
import Mathlib.Data.List.Nodup
import Mathlib.Data.List.Shortlex
import Mathlib.Data.Set.Function
import Mathlib.Tactic.Ring

/-!
# Laws of column names

A name is a numeral to the base 26 that has no zero: its digits run from `A` for one to `Z` for twenty-six
(`nameNumber`). Indexes below 26 are named by one letter, and the others carry into the places on the left
(`columnName_carry`); words are read along the same cut, at their last letter, so **naming and reading
undo each other** (`nameNumber_columnName`, `columnName_nameNumber`). The words of one length take up the
numbers between two bounds (`pow_length_le`, `lt_pow_length`), hence reading keeps the order of words, by
length first and then by the alphabet (`nameNumber_lt_of_shortlex`).

A loop over words of the machine writes a name from its last letter to the first. What is left for it gets
less with every letter, and it writes the same names for all indexes below the largest word
(`writtenName_eq`). A sheet whose headers nobody writes therefore never has two of one name
(`Grid.nodup_headers_edited`).
-/

namespace Infochart.Sheet

/-- Whether a character is one of the letters `A` to `Z`. -/
def IsLetter (c : Char) : Prop :=
  'A' ≤ c ∧ c ≤ 'Z'

/-- Some letters from `A` to `Z`. -/
structure IsName (w : List Char) : Prop where
  nonempty : w ≠ []
  letters : ∀ c ∈ w, IsLetter c

/-- The digit that a letter stands for: from `A` for one to `Z` for twenty-six. -/
def letterDigit (c : Char) : Nat :=
  c.toNat - 64

/-- The number that a word stands for as a numeral to the base 26. -/
def nameNumber (w : List Char) : Nat :=
  w.foldl (fun n c => 26 * n + letterDigit c) 0

variable {c d : Char} {v w : List Char} {i j n : Nat}

/-! ## Letters -/

theorem isLetter_iff : IsLetter c ↔ 65 ≤ c.toNat ∧ c.toNat ≤ 90 :=
  Iff.rfl

theorem IsLetter.digit_pos (h : IsLetter c) : 0 < letterDigit c := by
  rw [isLetter_iff] at h
  unfold letterDigit
  omega

theorem IsLetter.digit_le (h : IsLetter c) : letterDigit c ≤ 26 := by
  rw [isLetter_iff] at h
  unfold letterDigit
  omega

theorem isLetter_columnLetter (h : n < 26) : IsLetter (columnLetter n) := by
  have hall : ∀ n < 26, 'A' ≤ columnLetter n ∧ columnLetter n ≤ 'Z' := by decide
  exact hall n h

theorem letterDigit_columnLetter (h : n < 26) : letterDigit (columnLetter n) = n + 1 := by
  have hall : ∀ n < 26, letterDigit (columnLetter n) = n + 1 := by decide
  exact hall n h

theorem columnLetter_letterDigit (h : IsLetter c) : columnLetter (letterDigit c - 1) = c := by
  rw [isLetter_iff] at h
  have hcode : 65 + (c.toNat - 64 - 1) = c.toNat := by omega
  unfold columnLetter letterDigit
  rw [hcode, Char.ofNat_toNat]

theorem letterDigit_lt (hd : IsLetter d) (h : c < d) : letterDigit c < letterDigit d := by
  have hlt : c.toNat < d.toNat := h
  have hd := hd.digit_pos
  unfold letterDigit at *
  omega

/-! ## Reading -/

theorem nameNumber_concat (w : List Char) (c : Char) :
    nameNumber (w ++ [c]) = 26 * nameNumber w + letterDigit c := by
  unfold nameNumber
  rw [List.foldl_append, List.foldl_cons, List.foldl_nil]

theorem nameNumber_singleton (c : Char) : nameNumber [c] = letterDigit c :=
  Nat.zero_add _

theorem nameNumber_append (v w : List Char) :
    nameNumber (v ++ w) = nameNumber v * 26 ^ w.length + nameNumber w := by
  induction w using List.reverseRecOn with
  | nil => simp [nameNumber]
  | append_singleton w c ih =>
    rw [← List.append_assoc, nameNumber_concat, nameNumber_concat, ih, List.length_append,
      List.length_singleton]
    ring

theorem nameNumber_cons (c : Char) (w : List Char) :
    nameNumber (c :: w) = letterDigit c * 26 ^ w.length + nameNumber w := by
  rw [← List.singleton_append, nameNumber_append, nameNumber_singleton]

/-- The least number of a length is that of a word of `A` only. -/
theorem pow_length_le (h : ∀ c ∈ w, IsLetter c) : 26 ^ w.length ≤ 25 * nameNumber w + 1 := by
  induction w using List.reverseRecOn with
  | nil => exact le_rfl
  | append_singleton w c ih =>
    rw [List.forall_mem_append, List.forall_mem_singleton] at h
    have hrest := ih h.1
    have hpos := h.2.digit_pos
    rw [nameNumber_concat, List.length_append, List.length_singleton, Nat.pow_succ]
    omega

/-- The greatest number of a length is that of a word of `Z` only. -/
theorem lt_pow_length (h : ∀ c ∈ w, IsLetter c) : 25 * nameNumber w + 25 < 26 ^ (w.length + 1) := by
  induction w using List.reverseRecOn with
  | nil => decide
  | append_singleton w c ih =>
    rw [List.forall_mem_append, List.forall_mem_singleton] at h
    have hrest := ih h.1
    have hle := h.2.digit_le
    rw [nameNumber_concat, List.length_append, List.length_singleton, Nat.pow_succ]
    omega

theorem IsName.number_pos (h : IsName w) : 0 < nameNumber w := by
  have hlength : w.length ≠ 0 := fun hzero => h.nonempty (List.eq_nil_of_length_eq_zero hzero)
  have hpow : 1 < 26 ^ w.length := Nat.one_lt_pow hlength (by decide)
  have hle := pow_length_le h.letters
  omega

/-! ## Naming -/

theorem columnName_of_lt (h : i < 26) : columnName i = [columnLetter i] := by
  rw [columnName, if_pos h]

/-- **The carry**: behind a name that is used up comes each of the letters. -/
theorem columnName_carry (q : Nat) (h : n < 26) :
    columnName (26 * (q + 1) + n) = columnName q ++ [columnLetter n] := by
  have hlarge : ¬ 26 * (q + 1) + n < 26 := by omega
  have hquotient : (26 * (q + 1) + n) / 26 - 1 = q := by omega
  have hremainder : (26 * (q + 1) + n) % 26 = n := by omega
  rw [columnName, if_neg hlarge, hquotient, hremainder]

theorem isName_columnName (i : Nat) : IsName (columnName i) := by
  fun_induction columnName i with
  | case1 i h =>
    exact ⟨List.cons_ne_nil _ _, List.forall_mem_singleton.2 (isLetter_columnLetter h)⟩
  | case2 i h ih =>
    have hlast : IsLetter (columnLetter (i % 26)) :=
      isLetter_columnLetter (Nat.mod_lt _ (by decide))
    refine ⟨List.append_ne_nil_of_right_ne_nil _ (List.cons_ne_nil _ _), ?_⟩
    rw [List.forall_mem_append, List.forall_mem_singleton]
    exact ⟨ih.letters, hlast⟩

/-- **The name of a column reads as its index**, counted from one. -/
theorem nameNumber_columnName (i : Nat) : nameNumber (columnName i) = i + 1 := by
  fun_induction columnName i with
  | case1 i h => rw [nameNumber_singleton, letterDigit_columnLetter h]
  | case2 i h ih =>
    rw [nameNumber_concat, ih, letterDigit_columnLetter (Nat.mod_lt _ (by decide))]
    omega

/-- **Each word names the column that it reads as.** -/
theorem columnName_nameNumber (h : IsName w) : columnName (nameNumber w - 1) = w := by
  obtain ⟨hne, hletters⟩ := h
  induction w using List.reverseRecOn with
  | nil => exact absurd rfl hne
  | append_singleton w c ih =>
    rw [List.forall_mem_append, List.forall_mem_singleton] at hletters
    obtain ⟨hw, hc⟩ := hletters
    have hpos := hc.digit_pos
    have hle := hc.digit_le
    have hdigit : letterDigit c - 1 < 26 := by omega
    by_cases hnil : w = []
    · rw [hnil, List.nil_append, nameNumber_singleton, columnName_of_lt hdigit,
        columnLetter_letterDigit hc]
    · have hnumber := IsName.number_pos ⟨hnil, hw⟩
      rw [nameNumber_concat]
      have hindex : 26 * nameNumber w + letterDigit c - 1 =
          26 * (nameNumber w - 1 + 1) + (letterDigit c - 1) := by omega
      rw [hindex, columnName_carry _ hdigit, ih hnil hw, columnLetter_letterDigit hc]

/-! ## Order -/

/-- Of two words of one length, the one that comes first in the alphabet has the smaller number. -/
theorem nameNumber_lt_of_lex (h : List.Lex (· < ·) v w) (hlength : v.length = w.length)
    (hv : ∀ c ∈ v, IsLetter c) (hw : ∀ c ∈ w, IsLetter c) : nameNumber v < nameNumber w := by
  induction h with
  | nil => simp at hlength
  | @cons c v w h ih =>
    rw [List.forall_mem_cons] at hv hw
    rw [List.length_cons, List.length_cons, Nat.succ_inj] at hlength
    rw [nameNumber_cons, nameNumber_cons, hlength]
    exact Nat.add_lt_add_left (ih hlength hv.2 hw.2) _
  | @rel c v d w hcd =>
    rw [List.forall_mem_cons] at hv hw
    rw [List.length_cons, List.length_cons, Nat.succ_inj] at hlength
    -- A greater first digit outweighs all that can follow the smaller one.
    have hdigit : (letterDigit c + 1) * 26 ^ w.length ≤ letterDigit d * 26 ^ w.length :=
      Nat.mul_le_mul_right _ (letterDigit_lt hw.1 hcd)
    have hgreatest := lt_pow_length hv.2
    have hleast := pow_length_le hw.2
    rw [hlength, Nat.pow_succ] at hgreatest
    rw [Nat.succ_mul] at hdigit
    rw [nameNumber_cons, nameNumber_cons, hlength]
    omega

/-- **Reading keeps the order of words**, by length first and then by the alphabet. -/
theorem nameNumber_lt_of_shortlex (h : List.Shortlex (· < ·) v w) (hv : IsName v) (hw : IsName w) :
    nameNumber v < nameNumber w := by
  rcases List.shortlex_def.1 h with hshorter | ⟨hlength, hlex⟩
  · have hgreatest := lt_pow_length hv.letters
    have hleast := pow_length_le hw.letters
    have hpow : 26 ^ (v.length + 1) ≤ 26 ^ w.length := Nat.pow_le_pow_right (by decide) hshorter
    omega
  · exact nameNumber_lt_of_lex hlex hlength hv.letters hw.letters

theorem lt_of_shortlex (h : List.Shortlex (· < ·) (columnName i) (columnName j)) : i < j := by
  have hlt := nameNumber_lt_of_shortlex h (isName_columnName i) (isName_columnName j)
  rw [nameNumber_columnName, nameNumber_columnName] at hlt
  omega

theorem columnName_injective : Function.Injective columnName := by
  intro i j h
  have hnumber := congrArg nameNumber h
  rw [nameNumber_columnName, nameNumber_columnName] at hnumber
  omega

/-- **Names come by length first, and by the alphabet within a length.** -/
theorem lt_iff_shortlex : i < j ↔ List.Shortlex (· < ·) (columnName i) (columnName j) := by
  constructor
  · intro hlt
    rcases trichotomous_of (List.Shortlex (· < ·)) (columnName i) (columnName j) with h | h | h
    · exact h
    · exact absurd (columnName_injective h) (Nat.ne_of_lt hlt)
    · exact absurd (lt_of_shortlex h) (Nat.lt_asymm hlt)
  · exact lt_of_shortlex

theorem invOn_columnName :
    Set.InvOn (fun w => nameNumber w - 1) columnName Set.univ {w | IsName w} := by
  constructor
  · intro i _
    show nameNumber (columnName i) - 1 = i
    rw [nameNumber_columnName, Nat.add_sub_cancel]
  · intro w hw
    exact columnName_nameNumber hw

/-! ## Words of the machine -/

section Machine

variable {count index : USize}

theorem toNat_twentySix : (26 : USize).toNat = 26 :=
  USize.toNat_ofNat_of_lt_32 (by decide)

theorem toNat_pos (h : count ≠ 0) : 0 < count.toNat :=
  Nat.pos_of_ne_zero fun hzero => h (USize.toNat_inj.1 hzero)

theorem toNat_sub_one (h : count ≠ 0) : (count - 1).toNat = count.toNat - 1 := by
  have hle : (1 : USize) ≤ count := by
    rw [USize.le_iff_toNat_le, USize.toNat_one]
    exact toNat_pos h
  rw [USize.toNat_sub_of_le _ _ hle, USize.toNat_one]

theorem toNat_add_one (h : index.toNat + 1 < USize.size) : (index + 1).toNat = index.toNat + 1 := by
  rw [USize.toNat_add, USize.toNat_one]
  exact Nat.mod_eq_of_lt h

/-- The places that are left after one letter. -/
theorem toNat_carry (h : count ≠ 0) : ((count - 1) / 26).toNat = (count.toNat - 1) / 26 := by
  rw [USize.toNat_div, toNat_sub_one h, toNat_twentySix]

/-- The letters of a count, written from the last to the first in front of those that are there. -/
def writeLetters (count : USize) (written : List Char) : List Char :=
  if h : count = 0 then written
  else writeLetters ((count - 1) / 26) (columnLetter ((count - 1) % 26).toNat :: written)
termination_by count.toNat
decreasing_by
  have hpos := toNat_pos h
  rw [toNat_carry h]
  omega

/-- The name of a column in words of the machine, where the largest index has no successor. -/
def writtenName (index : USize) : List Char :=
  writeLetters (index + 1) []

theorem writeLetters_zero (written : List Char) : writeLetters 0 written = written := by
  rw [writeLetters, dif_pos rfl]

/-- **The loop writes the name of a column in front of what is written.** -/
theorem writeLetters_eq (written : List Char) (h : count.toNat = i + 1) :
    writeLetters count written = columnName i ++ written := by
  fun_induction writeLetters count written generalizing i with
  | case1 written => exact absurd h (Nat.succ_ne_zero i).symm
  | case2 count written hne ih =>
    have hleft : ((count - 1) / 26).toNat = i / 26 := by
      rw [toNat_carry hne, h, Nat.add_sub_cancel]
    have hletter : ((count - 1) % 26).toNat = i % 26 := by
      rw [USize.toNat_mod, toNat_sub_one hne, toNat_twentySix, h, Nat.add_sub_cancel]
    rw [hletter] at ih ⊢
    -- The first letter of a name leaves nothing, and any other one the places on its left.
    by_cases hlt : i < 26
    · have hdone : (count - 1) / 26 = 0 :=
        USize.toNat_inj.1 (hleft.trans (Nat.div_eq_of_lt hlt))
      rw [hdone, writeLetters_zero, columnName_of_lt hlt, Nat.mod_eq_of_lt hlt]
      rfl
    · have hcarry := columnName_carry (i / 26 - 1) (Nat.mod_lt i (by decide : 0 < 26))
      have hi : 26 * (i / 26 - 1 + 1) + i % 26 = i := by omega
      rw [hi] at hcarry
      rw [ih (i := i / 26 - 1) (by omega), hcarry, List.append_assoc]
      rfl

theorem writtenName_eq (h : index.toNat + 1 < USize.size) :
    writtenName index = columnName index.toNat :=
  (writeLetters_eq [] (toNat_add_one h)).trans (List.append_nil _)

/-- Below the largest word, the machine names columns by all words whose number it can hold. -/
theorem bijOn_writtenName : Set.BijOn writtenName {i | i.toNat + 1 < USize.size}
    {w | IsName w ∧ nameNumber w < USize.size} := by
  refine ⟨fun i hi => ?_, fun i hi j hj h => ?_, fun w hw => ?_⟩
  · rw [writtenName_eq hi, Set.mem_ofPred_eq, nameNumber_columnName]
    exact ⟨isName_columnName _, hi⟩
  · rw [writtenName_eq hi, writtenName_eq hj] at h
    exact USize.toNat_inj.1 (columnName_injective h)
  · obtain ⟨hname, hlt⟩ := hw
    have hpos := hname.number_pos
    have hindex : (USize.ofNat (nameNumber w - 1)).toNat = nameNumber w - 1 :=
      USize.toNat_ofNat_of_lt' (by omega)
    have hbelow : (USize.ofNat (nameNumber w - 1)).toNat + 1 < USize.size := by omega
    refine ⟨_, hbelow, ?_⟩
    rw [writtenName_eq hbelow, hindex, columnName_nameNumber hname]

end Machine

/-! ## All names -/

/-- **Columns are named by all words, in order.** The names of columns are the words over `A` to `Z`, each
    the name of one column, and reading a word as a numeral, less one, gives its column back. They come by
    length first and by the alphabet within a length. The loop over words of the machine ends with these
    names for each index below the largest, and they are all words whose number the machine can hold. -/
theorem columnNames_enumerate_words :
    Set.BijOn columnName Set.univ {w | IsName w} ∧
      Set.InvOn (fun w => nameNumber w - 1) columnName Set.univ {w | IsName w} ∧
      (∀ i j, i < j ↔ List.Shortlex (· < ·) (columnName i) (columnName j)) ∧
      Set.EqOn writtenName (fun i => columnName i.toNat) {i | i.toNat + 1 < USize.size} ∧
      Set.BijOn writtenName {i | i.toNat + 1 < USize.size}
        {w | IsName w ∧ nameNumber w < USize.size} := by
  refine ⟨?_, invOn_columnName, fun i j => lt_iff_shortlex, fun i hi => writtenName_eq hi,
    bijOn_writtenName⟩
  exact invOn_columnName.bijOn (fun i _ => isName_columnName i) (fun w _ => Set.mem_univ _)

/-- The carry runs through all places of a name. -/
example : columnName 701 = ['Z', 'Z'] ∧ columnName 702 = ['A', 'A', 'A'] := by
  simp [columnName, columnLetter]

/-! ## Headers of letters -/

theorem defaultHeader_injective : Function.Injective defaultHeader := by
  intro i j h
  exact columnName_injective (String.ofList_injective h)

namespace Grid

variable {g : Grid}

/-- Whether all headers of a sheet are the letters of their columns. -/
def IsLettered (g : Grid) : Prop :=
  ∀ i, g.header i = defaultHeader i

theorem isLettered_ofSize (rows columns : Nat) : (ofSize rows columns).IsLettered := by
  intro i
  unfold header ofSize
  simp only [List.getElem?_map]
  cases hi : (List.range columns)[i]? with
  | none => rfl
  | some j =>
    obtain ⟨hlt, hj⟩ := List.getElem?_eq_some_iff.1 hi
    rw [List.getElem_range] at hj
    rw [hj]
    rfl

theorem IsLettered.edited (h : g.IsLettered) {edits : List Edit}
    (hedits : ∀ e ∈ edits, ∀ i, e.header? i = none) : (g.edited edits).IsLettered := by
  intro i
  have hlast : Edit.last? (Edit.header? i) edits = none := by
    unfold Edit.last?
    rw [List.findSome?_eq_none_iff]
    exact fun e he => hedits e (List.mem_reverse.1 he) i
  have hview := view_edited (fun g => g.header i) (fun g e => g.header_edit i e) g edits
  rw [hlast] at hview
  exact hview.trans (h i)

theorem IsLettered.headers_eq (h : g.IsLettered) :
    g.headers = (List.range g.headers.length).map defaultHeader := by
  refine List.ext_getElem (by simp) fun i hi _ => ?_
  have hheader := getElem?_headers hi
  rw [List.getElem?_eq_getElem hi, h i] at hheader
  simpa using hheader

/-- **Columns of letters never share a name**: whatever else is done to a sheet of a given size, its headers
    are distinct until one is written. -/
theorem nodup_headers_edited (rows columns : Nat) {edits : List Edit}
    (hedits : ∀ e ∈ edits, ∀ i, e.header? i = none) :
    ((ofSize rows columns).edited edits).headers.Nodup := by
  rw [((isLettered_ofSize rows columns).edited hedits).headers_eq]
  exact List.Nodup.map defaultHeader_injective List.nodup_range

end Grid

end Infochart.Sheet
