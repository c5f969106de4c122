import Infochart.Proofs.Decimal.Whole
import Infochart.Proofs.Json.Array
import Infochart.Proofs.Property.Line

/-!
# Values read back

What is written behind the comma of a property line and what is read there are two sides of one thing:
`reread` is the value that a reader makes of a written one. A text comes back as it is, whatever it
holds, because quotes are put around exactly those texts that would be read as something else
(`reread_text`); a list comes back as the list of its items read back (`reread_list`). Which items come
back as what is the relation `Scalar.ReadsAs`.
-/

namespace Infochart
namespace Property

open Json (IsItem)

/-! ## Items -/

/-- An item is read back as a scalar: its text is an item of an array, and the data that it stands for is
    that scalar. -/
def Scalar.ReadsAs (a b : Scalar) : Prop :=
  ∃ f v, IsItem a.item f ∧ f.value? = some v ∧ Scalar.ofData v = b

theorem Scalar.readsAs_text (s : String) : (Scalar.text s).ReadsAs (.text s) := by
  refine ⟨.text (s.toList.map Json.writtenPiece), .text s, Json.isItem_quote _, ?_, rfl⟩
  unfold Json.Form.value? Json.decodeText
  rw [Json.decode_map_writtenPiece, Option.map_some, Option.map_some, String.ofList_toList]

/-- The literal of an integer is read as that integer. -/
theorem value?_whole {n : Int} (hn : n.natAbs ≤ 2 ^ 53) :
    (Json.Literal.mk (decide (n < 0)) (Decimal.digitsOf n.natAbs) none none).value? =
      some (.integer n) := by
  unfold Json.Literal.value?
  simp only [Decimal.ofDigits_digitsOf, and_self, if_true]
  by_cases h : n < 0
  · have hpos : 0 < n.natAbs := by omega
    have hfit : n.natAbs ≤ Nat.pow 2 63 := Nat.le_trans hn (by decide)
    have hneg : -(n.natAbs : Int) = n := by omega
    rw [decide_eq_true h, if_neg (by simp), if_pos ⟨rfl, hpos, hfit⟩, hneg]
  · have hfit : n.natAbs < Nat.pow 2 64 := Nat.lt_of_le_of_lt hn (by decide)
    have hpos : (n.natAbs : Int) = n := by omega
    rw [decide_eq_false h, if_pos ⟨rfl, hfit⟩, hpos]

theorem ofData_integer (n : Int) : Scalar.ofData (.integer n) = .number (Float.ofInt n) := by
  cases n with
  | ofNat k =>
    have h : ¬ (Int.ofNat k < 0) := by simp
    show Scalar.number (if Int.ofNat k < 0 then _ else _) = _
    rw [if_neg h]
    rfl
  | negSucc k =>
    have h : Int.negSucc k < 0 := by simp
    show Scalar.number (if Int.negSucc k < 0 then _ else _) = _
    rw [if_pos h]
    rfl

/-- **An integer of at most 53 bits is read back as itself.** -/
theorem Scalar.readsAs_integer {x : Float} {n : Int} (hn : n.natAbs ≤ 2 ^ 53)
    (hx : (x == Float.ofInt n) = true) : (Scalar.number x).ReadsAs (.number (Float.ofInt n)) := by
  refine ⟨.number ⟨decide (n < 0), Decimal.digitsOf n.natAbs, none, none⟩, .integer n, ?_, ?_,
    ofData_integer n⟩
  · have htext : (Scalar.number x).item = _ := Decimal.amount_of_beq_ofInt hn hx
    rw [htext]
    exact Json.isItem_whole _ (Json.isWhole_digitsOf _)
  · exact value?_whole hn

/-! ## Lists -/

theorem itemValues?_eq {as : List Scalar} {bs : List Scalar}
    (h : List.Forall₂ Scalar.ReadsAs as bs) :
    ∃ fs vs, List.Forall₂ IsItem (as.map Scalar.item) fs ∧ Json.itemValues? fs = some vs ∧
      vs.map Scalar.ofData = bs := by
  induction h with
  | nil => exact ⟨[], [], .nil, rfl, rfl⟩
  | cons hab _ ih =>
    obtain ⟨f, v, hf, hv, rfl⟩ := hab
    obtain ⟨fs, vs, hfs, hvs, rfl⟩ := ih
    refine ⟨f :: fs, v :: vs, .cons hf hfs, ?_, rfl⟩
    simp [Json.itemValues?, hv, hvs]

/-- An array is decoded if all its items have a value. -/
theorem decodeArray?_eq {as : List Scalar} {fs : List (Json.Form Json.Literal)}
    (h : List.Forall₂ IsItem (as.map Scalar.item) fs) :
    decodeArray? (arrayText as) = (Json.itemValues? fs).map (·.map Scalar.ofData) := by
  have hroom : 0 < Json.valueRoom := by decide
  have hform : Json.Form.ofText? Json.valueRoom (arrayText as) = some (.array fs) :=
    Json.ofText?_array h hroom
  unfold decodeArray? Json.Value.ofText?
  rw [hform, Option.bind_some, Json.Form.value?]
  cases Json.itemValues? fs <;> rfl

/-- **An array is decoded item by item.** -/
theorem decodeArray?_arrayText {as bs : List Scalar} (h : List.Forall₂ Scalar.ReadsAs as bs) :
    decodeArray? (arrayText as) = some bs := by
  obtain ⟨fs, vs, hfs, hvs, rfl⟩ := itemValues?_eq h
  rw [decodeArray?_eq hfs, hvs]
  rfl

theorem itemValues?_eq_none {fs : List (Json.Form Json.Literal)}
    (h : ∃ f ∈ fs, f.value? = none) : Json.itemValues? fs = none := by
  induction fs with
  | nil =>
    obtain ⟨f, hf, -⟩ := h
    cases hf
  | cons g gs ih =>
    obtain ⟨f, hf, hv⟩ := h
    cases hf with
    | head => simp [Json.itemValues?, hv]
    | tail _ hf => simp [Json.itemValues?, ih ⟨f, hf, hv⟩]

/-! ## Values -/

/-- The value that is read where a value has been written. -/
def reread (v : Value) : Value :=
  decodeValue (Text.trim v.lineText)

theorem Line.read_lineOf (id : Id) (v : Value) :
    Line.read (lineOf id v) = .entry id (Text.trim v.lineText) :=
  Line.read_entry

/-- A text in quotes or brackets is not touched by trimming. -/
theorem trim_enclosed {a b : Char} (ha : Text.isBlank a = false) (hb : Text.isBlank b = false)
    (s : List Char) : Text.trim (a :: s ++ [b]) = a :: s ++ [b] := by
  rw [Text.trim_eq_self_iff]
  constructor
  · intro c hc
    cases hc
    exact ha
  · intro c hc
    rw [List.getLast?_concat] at hc
    cases hc
    exact hb

theorem decodeValue_quoted (s : List Char) :
    decodeValue ('"' :: s ++ ['"']) = .text (String.ofList s) := by
  have hhead : ('"' :: s ++ ['"']).head? = some '"' := rfl
  have hlast : ('"' :: s ++ ['"']).getLast? = some '"' := List.getLast?_concat
  unfold decodeValue
  rw [hhead, hlast]
  simp

/-- **A text is read back as it is.** Quotes are put around it exactly if it would be read as something
    else without them. -/
theorem reread_text (s : String) : reread (.text s) = .text s := by
  unfold reread Value.lineText
  -- Quotes that are put around a text come off again; a text without them is neither trimmed nor decoded.
  by_cases h : (Value.needsQuotes s.toList && !s.toList.isEmpty) = true
  · simp only [h, if_true]
    rw [trim_enclosed (by decide) (by decide), decodeValue_quoted, String.ofList_toList]
  · simp only [h, Bool.false_eq_true, if_false]
    by_cases hnil : s.toList = []
    · have hs : s = "" := String.toList_eq_nil_iff.1 hnil
      subst hs
      rfl
    · have hempty : s.toList.isEmpty = false := by simpa using hnil
      rw [hempty, Bool.not_false, Bool.and_true, Bool.not_eq_true] at h
      unfold Value.needsQuotes at h
      rw [Bool.or_eq_false_iff, Bool.or_eq_false_iff] at h
      obtain ⟨⟨hquotes, hbrackets⟩, htrim⟩ := h
      have hself : Text.trim s.toList = s.toList := by simpa using htrim
      unfold decodeValue
      rw [hself, hbrackets, hquotes]
      simp

theorem reread_arrayText (items : List Scalar) :
    reread (.list items) = match decodeArray? (arrayText items) with
      | some bs => .list bs
      | none => .text (String.ofList (arrayText items)) := by
  have hlast : (arrayText items).getLast? = some ']' := List.getLast?_concat
  have hhead : (arrayText items).head? = some '[' := rfl
  have htrim : Text.trim (arrayText items) = arrayText items :=
    trim_enclosed (by decide) (by decide) _
  have hwritten : reread (.list items) = decodeValue (arrayText items) := congrArg decodeValue htrim
  rw [hwritten]
  unfold decodeValue
  rw [hhead, hlast]
  cases decodeArray? (arrayText items) <;> rfl

/-- **A list is read back as the list of its items read back.** -/
theorem reread_list {as bs : List Scalar} (h : List.Forall₂ Scalar.ReadsAs as bs) :
    reread (.list as) = .list bs := by
  rw [reread_arrayText, decodeArray?_arrayText h]

/-! ## Lines without line feeds -/

theorem newline_not_mem_join {ss : List (List Char)} (h : ∀ s ∈ ss, '\n' ∉ s) :
    '\n' ∉ Text.join ',' ss := by
  induction ss with
  | nil => simp [Text.join]
  | cons s r ih =>
    have hs := h s List.mem_cons_self
    have hr := ih fun t ht => h t (List.mem_cons_of_mem s ht)
    cases r with
    | nil => simpa [Text.join] using hs
    | cons t r => simp [Text.join, hs, hr]

theorem Scalar.newline_not_mem_item (a : Scalar) : '\n' ∉ a.item := by
  cases a with
  | text s => exact Json.newline_not_mem_quote s.toList
  | number x => exact Decimal.newline_not_mem_amount x

theorem newline_not_mem_arrayText (items : List Scalar) : '\n' ∉ arrayText items := by
  have hjoin : '\n' ∉ Text.join ',' (items.map Scalar.item) := by
    refine newline_not_mem_join fun s hs => ?_
    obtain ⟨a, -, rfl⟩ := List.mem_map.1 hs
    exact a.newline_not_mem_item
  simp [arrayText, hjoin]

theorem newline_not_mem_lineOf {id : Id} {v : Value} (h : '\n' ∉ v.lineText) :
    '\n' ∉ lineOf id v := by
  have hdigits : '\n' ∉ id.digits := Id.not_mem_digits (by decide)
  simp [lineOf, hdigits, h]

theorem newline_not_mem_lineText_text {s : String} (h : '\n' ∉ s.toList) :
    '\n' ∉ (Value.text s).lineText := by
  unfold Value.lineText
  simp only
  split
  · simp [h]
  · exact h

end Property
end Infochart
