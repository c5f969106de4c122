import Infochart.Proofs.Property.Survival

/-!
# How much is read

A reader takes characters and never makes any, so no list of a description has more items than the text
has characters to write them with. For arrays the bound is the fuel that their reader is given, twice the
text and one more.

Counts enter the coordinates of a layout, so they need a bound as measures do. The fuel is not the best
one, since an item takes a character and a comma; but it is read off the recursion at once, and for texts
below `2 ^ 63` characters it stays below `2 ^ 64`, which is all that is asked for. What comes before the
array only shortens the text: a value is a part of its line, and a line is a part of the text.
-/

namespace Infochart

namespace Text

theorem length_trim_le (s : List Char) : (trim s).length ≤ s.length :=
  (length_trimEnd_le (trimStart s)).trans (length_trimStart_le s)

theorem length_dropReturn_le (l : List Char) : (dropReturn l).length ≤ l.length := by
  unfold dropReturn
  split
  · exact (List.dropLast_prefix l).length_le
  · exact le_rfl

/-- No line is longer than the text. -/
theorem length_le_of_mem_cut {s l : List Char} (h : l ∈ cut s) : l.length ≤ s.length := by
  induction s using lineInduction with
  | last p hp =>
    rw [cut_of_not_mem hp, List.mem_singleton] at h
    rw [h]
  | line p r hp ih =>
    rw [cut_append_of_not_mem hp, List.mem_cons] at h
    rw [List.length_append, List.length_cons]
    rcases h with rfl | h
    · have hdrop := length_dropReturn_le p
      omega
    · have hr := ih h
      omega

end Text

namespace Json

/-! ## Arrays -/

/-- The induction is on the fuel and not on the text: an item costs one unit of fuel, whatever it holds,
    while the number of characters it takes is known only to the readers of strings and nested values. -/
theorem length_readItems {fuel room : Nat} {s r : List Char} {items : List (Form Literal)}
    (h : readItems fuel room s = some (items, r)) : items.length ≤ fuel := by
  induction fuel generalizing s items with
  | zero => cases h
  | succ fuel ih =>
    unfold readItems at h
    split at h
    · cases h
    · split at h
      · cases h
        exact Nat.le_add_left 1 fuel
      · obtain ⟨⟨vs, u⟩, hvs, heq⟩ := Option.map_eq_some_iff.1 h
        cases heq
        exact Nat.succ_le_succ (ih hvs)
      · cases h

/-- The cases are those of the reader, told apart by the first character. Only one of them gives an array,
    and in the others the equation has two different constructors. -/
theorem length_readValue {fuel room : Nat} {s r : List Char} {items : List (Form Literal)}
    (h : readValue fuel room s = some (.array items, r)) : items.length ≤ fuel := by
  cases fuel with
  | zero => cases h
  | succ fuel =>
    unfold readValue at h
    split at h
    · cases h
    · cases h
    · cases h
    · obtain ⟨e, -, heq⟩ := Option.map_eq_some_iff.1 h
      cases heq
    · split at h
      · cases h
      · split at h
        · cases h
          exact Nat.zero_le _
        · obtain ⟨⟨vs, u⟩, hvs, heq⟩ := Option.map_eq_some_iff.1 h
          cases heq
          exact (length_readItems hvs).trans (Nat.le_succ fuel)
    · split at h
      · cases h
      · split at h
        · cases h
        · obtain ⟨e, -, heq⟩ := Option.map_eq_some_iff.1 h
          cases heq
    · obtain ⟨e, -, heq⟩ := Option.map_eq_some_iff.1 h
      cases heq

/-- An array is decoded as a whole or not at all, so decoding drops no item. -/
theorem length_itemValues? {items : List (Form Literal)} {vs : List Value}
    (h : itemValues? items = some vs) : vs.length = items.length := by
  induction items generalizing vs with
  | nil =>
    unfold itemValues? at h
    cases h
    rfl
  | cons t r ih =>
    unfold itemValues? at h
    obtain ⟨v, -, h⟩ := Option.bind_eq_some_iff.1 h
    obtain ⟨ws, hws, h⟩ := Option.bind_eq_some_iff.1 h
    cases h
    exact congrArg Nat.succ (ih hws)

/-- A number is not an array. This is not a matter of constructors, as a literal that is too large for an
    integer is tried as another kind of number. -/
theorem Literal.value?_ne_array (l : Literal) (items : List Value) :
    l.value? ≠ some (.array items) := by
  have hreal : l.real?.map Value.real ≠ some (.array items) := by
    intro h
    obtain ⟨x, -, heq⟩ := Option.map_eq_some_iff.1 h
    cases heq
  unfold Literal.value?
  intro h
  simp only at h
  split at h
  · split at h
    · cases h
    · split at h
      · cases h
      · exact hreal h
  · exact hreal h

theorem length_ofText? {s : List Char} {items : List Value}
    (h : Value.ofText? s = some (.array items)) : items.length ≤ 2 * s.length + 1 := by
  unfold Value.ofText? at h
  obtain ⟨t, ht, hvalue⟩ := Option.bind_eq_some_iff.1 h
  unfold Form.ofText? at ht
  split at ht
  · rename_i u r hread
    split at ht
    · cases ht
      cases t with
      | array forms =>
        unfold Form.value? at hvalue
        obtain ⟨vs, hvs, heq⟩ := Option.map_eq_some_iff.1 hvalue
        cases heq
        rw [length_itemValues? hvs]
        exact length_readValue hread
      | null => cases hvalue
      | bool b => cases hvalue
      | number l =>
        unfold Form.value? at hvalue
        exact absurd hvalue (l.value?_ne_array items)
      | text ps =>
        unfold Form.value? at hvalue
        obtain ⟨_, -, heq⟩ := Option.map_eq_some_iff.1 hvalue
        cases heq
      | object members =>
        unfold Form.value? at hvalue
        obtain ⟨_, -, heq⟩ := Option.map_eq_some_iff.1 hvalue
        cases heq
    · cases ht
  · cases ht

end Json

namespace Property

/-! ## Descriptions -/

/-- A text that is no array becomes a text, so a list has been read as an array. -/
theorem length_decodeValue {s : List Char} {items : List Scalar} (h : decodeValue s = .list items) :
    items.length ≤ 2 * s.length + 1 := by
  unfold decodeValue at h
  split at h
  · split at h
    · rename_i found hfound
      cases h
      unfold decodeArray? at hfound
      split at hfound
      · rename_i values hvalues
        cases hfound
        rw [List.length_map]
        exact Json.length_ofText? hvalues
      · cases hfound
    · cases h
  · split at h <;> cases h

/-- A value is what a trimmed line has behind its identifier, trimmed again. -/
theorem length_le_of_read {l value : List Char} {id : Id} (h : Line.read l = .entry id value) :
    value.length ≤ l.length := by
  cases reads_iff.2 h with
  | entry hs _ _ =>
    have hl := Text.length_trim_le l
    rw [hs, List.length_append, List.length_cons] at hl
    exact (Text.length_trim_le _).trans (by omega)

theorem mem_of_lookup {id : Id} {v : Value} {es : List (Id × Value)} (h : lookup id es = some v) :
    (id, v) ∈ es := by
  induction es with
  | nil => cases h
  | cons e r ih =>
    obtain ⟨k, w⟩ := e
    unfold lookup at h
    split at h
    · rename_i hk
      cases h
      rw [hk]
      exact List.mem_cons_self
    · exact List.mem_cons_of_mem _ (ih h)

/-- **A list has at most twice as many items as the text has characters, and one more.** -/
theorem length_le_of_get? {csv : String} {id : Id} {items : List Scalar}
    (h : (read csv).map.get? id = some (.list items)) : items.length ≤ 2 * csv.length + 1 := by
  obtain ⟨l, hl, value, hread, hvalue⟩ := exists_line_of_mem (mem_of_lookup h)
  have hitems := length_decodeValue hvalue.symm
  have hline := length_le_of_read hread
  have htext := Text.length_le_of_mem_cut hl
  rw [String.length_toList] at htext
  omega

theorem length_le_of_list? {csv : String} {k : Known} {items : List Scalar}
    (h : (read csv).map.list? k = some items) : items.length ≤ 2 * csv.length + 1 := by
  unfold Map.list? at h
  obtain ⟨v, hv, hlist⟩ := Option.bind_eq_some_iff.1 h
  cases v with
  | text s => cases hlist
  | list found =>
    cases hlist
    exact length_le_of_get? hv

end Property
end Infochart
