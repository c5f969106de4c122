import Mathlib.Data.List.Forall2
import Infochart.Property.Value
import Infochart.Proofs.Decimal.Digits
import Infochart.Proofs.Json.Quoted

/-!
# Arrays read back

An array is read item by item, and the reader of one item has to stop at the separator behind it. So
the notion that carries the module is that of a text which is read as one form in front of every
separator (`IsItem`); quoted texts are items, digits with an optional fraction are items, and items
with separators between them are read as the array of their forms (`ofText?_array`).

Only what a writer puts into an array is covered: no blanks, no nesting and no exponents. So the readers of
fractions and powers are only asked what they do in front of a separator, which is nothing.
-/

namespace Infochart
namespace Json

open Decimal (digitsOf signed)

/-! ## Numbers -/

/-- The digits that may stand before a point: one at least, and zero in front only when alone. -/
structure IsWhole (ds : List Char) : Prop where
  ne_nil : ds ≠ []
  isDigit : ∀ c ∈ ds, c.isDigit = true
  zero : ds.head? = some '0' → ds = ['0']

theorem isWhole_digitsOf (n : Nat) : IsWhole (digitsOf n) where
  ne_nil := Decimal.digitsOf_ne_nil n
  isDigit := fun _ h => Decimal.isDigit_of_mem_digitsOf h
  zero := by
    intro h
    rcases Nat.eq_zero_or_pos n with rfl | hn
    · rfl
    · exact absurd h (Decimal.head?_digitsOf_ne_zero hn)

/-- Whether the text behind a run of digits ends it. -/
def EndsDigits (rest : List Char) : Prop :=
  ∀ c ∈ rest.head?, c.isDigit = false

/-- A run of digits is taken whole and no further. -/
theorem takeDigits_append {ds rest : List Char} (hne : ds ≠ [])
    (hd : ∀ c ∈ ds, c.isDigit = true) (hr : EndsDigits rest) :
    takeDigits (ds ++ rest) = some (ds, rest) := by
  have htake : (ds ++ rest).takeWhile Char.isDigit = ds := by
    rw [List.takeWhile_append_of_pos hd]
    cases rest with
    | nil => simp
    | cons c r => simp [hr c rfl]
  have hdrop : (ds ++ rest).dropWhile Char.isDigit = rest := by
    rw [List.dropWhile_append_of_pos hd]
    cases rest with
    | nil => rfl
    | cons c r => simp [hr c rfl]
  have hemp : ds.isEmpty = false := by simpa using hne
  unfold takeDigits
  rw [htake, hdrop]
  simp [hemp]

/-- The reader refuses a zero in front of other digits; `IsWhole` has none. -/
theorem takeWhole_append {ds rest : List Char} (hw : IsWhole ds) (hr : EndsDigits rest) :
    takeWhole (ds ++ rest) = some (ds, rest) := by
  unfold takeWhole
  rw [takeDigits_append hw.ne_nil hw.isDigit hr]
  split
  · rename_i heq
    cases heq
    exact absurd (hw.zero rfl) (by simp)
  · rfl

/-- What stands behind an item: a comma, or the bracket that closes the array. -/
def Closes (rest : List Char) : Prop :=
  ∃ t, rest = ',' :: t ∨ rest = ']' :: t

theorem Closes.endsDigits {rest : List Char} (h : Closes rest) : EndsDigits rest := by
  rcases h with ⟨t, rfl | rfl⟩
  · intro c hc
    cases hc
    decide
  · intro c hc
    cases hc
    decide

theorem takePower_closes {rest : List Char} (h : Closes rest) :
    takePower rest = some (none, rest) := by
  rcases h with ⟨t, rfl | rfl⟩ <;> rfl

theorem takeFraction_closes {rest : List Char} (h : Closes rest) :
    takeFraction rest = some (none, rest) := by
  rcases h with ⟨t, rfl | rfl⟩ <;> rfl

/-- A text that begins with digits does not begin with a minus sign. -/
theorem takeNumber_signed (negative : Bool) {ds rest : List Char} (hw : IsWhole ds) :
    takeNumber (signed negative ds ++ rest) = (do
      let (whole, s) ← takeWhole (ds ++ rest)
      let (fraction, s) ← takeFraction s
      let (exponent, s) ← takePower s
      return (⟨negative, whole, fraction, exponent⟩, s)) := by
  cases negative with
  | true => rfl
  | false =>
    cases ds with
    | nil => exact absurd rfl hw.ne_nil
    | cons d ds =>
      have hd : d ≠ '-' := by
        rintro rfl
        exact absurd (hw.isDigit '-' List.mem_cons_self) (by decide)
      unfold takeNumber signed
      simp only [Bool.false_eq_true, if_false, List.cons_append]
      split
      · rename_i heq
        cases heq
        exact absurd rfl hd
      · rfl

theorem takeNumber_whole (negative : Bool) {ds rest : List Char} (hw : IsWhole ds)
    (hr : Closes rest) :
    takeNumber (signed negative ds ++ rest) = some (⟨negative, ds, none, none⟩, rest) := by
  rw [takeNumber_signed negative hw, takeWhole_append hw hr.endsDigits]
  simp [takeFraction_closes hr, takePower_closes hr]

theorem takeNumber_fraction (negative : Bool) {ds fs rest : List Char} (hw : IsWhole ds)
    (hne : fs ≠ []) (hf : ∀ c ∈ fs, c.isDigit = true) (hr : Closes rest) :
    takeNumber (signed negative (ds ++ '.' :: fs) ++ rest) =
      some (⟨negative, ds, some fs, none⟩, rest) := by
  have hshape : signed negative (ds ++ '.' :: fs) ++ rest =
      signed negative ds ++ ('.' :: (fs ++ rest)) := by
    cases negative <;> simp [signed]
  have hpoint : EndsDigits ('.' :: (fs ++ rest)) := by
    intro c hc
    cases hc
    decide
  rw [hshape, takeNumber_signed negative hw, takeWhole_append hw hpoint]
  simp [takeFraction, takeDigits_append hne hf hr.endsDigits, takePower_closes hr]

/-! ## Items -/

/-- A text that is read as one form in front of every separator. Its first character is neither a blank
    nor the bracket that would close an array without items. -/
structure IsItem (s : List Char) (f : Form Literal) : Prop where
  first : ∃ c r, s = c :: r ∧ isSpace c = false ∧ c ≠ ']'
  read : ∀ fuel room rest, Closes rest → readValue (fuel + 1) room (s ++ rest) = some (f, rest)

/-- A text is an item of one form only. -/
theorem IsItem.form_unique {s : List Char} {f g : Form Literal} (hf : IsItem s f)
    (hg : IsItem s g) : f = g := by
  have hcloses : Closes [']'] := ⟨[], .inr rfl⟩
  have h := (hf.read 0 0 [']'] hcloses).symm.trans (hg.read 0 0 [']'] hcloses)
  cases h
  rfl

/-- A value that begins like a number is read as one. All other kinds of values are told by a first
    character, and that is neither a digit nor a minus sign. -/
theorem readValue_of_number {c : Char} {r : List Char} (h : c = '-' ∨ c.isDigit = true)
    (fuel room : Nat) :
    readValue (fuel + 1) room (c :: r) = (takeNumber (c :: r)).map fun (n, t) => (.number n, t) := by
  have hne : ∀ d : Char, d ≠ '-' → d.isDigit = false → c ≠ d := by
    rintro d hm hd rfl
    rcases h with h | h
    · exact hm h
    · rw [hd] at h
      cases h
  have hspace : isSpace c = false := by
    simp [isSpace, hne ' ' (by decide) (by decide), hne '\t' (by decide) (by decide),
      hne '\n' (by decide) (by decide), hne '\r' (by decide) (by decide)]
  have hskip : skip (c :: r) = c :: r := by
    simp [skip, hspace]
  unfold readValue
  rw [hskip]
  split
  · rename_i heq
    exact absurd (List.cons.inj heq).1 (hne 'n' (by decide) (by decide))
  · rename_i heq
    exact absurd (List.cons.inj heq).1 (hne 't' (by decide) (by decide))
  · rename_i heq
    exact absurd (List.cons.inj heq).1 (hne 'f' (by decide) (by decide))
  · rename_i heq
    exact absurd (List.cons.inj heq).1 (hne '"' (by decide) (by decide))
  · rename_i heq
    exact absurd (List.cons.inj heq).1 (hne '[' (by decide) (by decide))
  · rename_i heq
    exact absurd (List.cons.inj heq).1 (hne '\x7b' (by decide) (by decide))
  · rfl

theorem isItem_of_takeNumber {s : List Char} {l : Literal}
    (hfirst : ∃ c r, s = c :: r ∧ (c = '-' ∨ c.isDigit = true))
    (htake : ∀ rest, Closes rest → takeNumber (s ++ rest) = some (l, rest)) :
    IsItem s (.number l) := by
  obtain ⟨c, r, rfl, hc⟩ := hfirst
  refine ⟨⟨c, r, rfl, ?_, ?_⟩, ?_⟩
  · rcases hc with rfl | hc
    · decide
    · by_contra hs
      simp only [isSpace, Bool.not_eq_false, Bool.or_eq_true, decide_eq_true_eq] at hs
      rcases hs with ((rfl | rfl) | rfl) | rfl <;> exact absurd hc (by decide)
  · rintro rfl
    rcases hc with hc | hc <;> exact absurd hc (by decide)
  · intro fuel room rest hr
    rw [List.cons_append, readValue_of_number hc, ← List.cons_append, htake rest hr]
    rfl

theorem signed_first (negative : Bool) {ds : List Char} (hw : IsWhole ds) (t : List Char) :
    ∃ c r, signed negative (ds ++ t) = c :: r ∧ (c = '-' ∨ c.isDigit = true) := by
  cases negative with
  | true => exact ⟨'-', ds ++ t, rfl, .inl rfl⟩
  | false =>
    cases ds with
    | nil => exact absurd rfl hw.ne_nil
    | cons d ds => exact ⟨d, ds ++ t, rfl, .inr (hw.isDigit d List.mem_cons_self)⟩

theorem isItem_whole (negative : Bool) {ds : List Char} (hw : IsWhole ds) :
    IsItem (signed negative ds) (.number ⟨negative, ds, none, none⟩) := by
  refine isItem_of_takeNumber ?_ fun rest hr => takeNumber_whole negative hw hr
  have h := signed_first negative hw []
  rwa [List.append_nil] at h

theorem isItem_fraction (negative : Bool) {ds fs : List Char} (hw : IsWhole ds) (hne : fs ≠ [])
    (hf : ∀ c ∈ fs, c.isDigit = true) :
    IsItem (signed negative (ds ++ '.' :: fs)) (.number ⟨negative, ds, some fs, none⟩) :=
  isItem_of_takeNumber (signed_first negative hw _)
    fun _ hr => takeNumber_fraction negative hw hne hf hr

theorem isItem_quote (s : List Char) : IsItem (quote s) (.text (s.map writtenPiece)) := by
  refine ⟨⟨'"', s.flatMap escapeChar ++ ['"'], rfl, by decide, by decide⟩, ?_⟩
  intro fuel room rest _
  have hshape : quote s ++ rest = '"' :: (s.flatMap escapeChar ++ '"' :: rest) := by
    simp [quote]
  have hskip : skip ('"' :: (s.flatMap escapeChar ++ '"' :: rest)) =
      '"' :: (s.flatMap escapeChar ++ '"' :: rest) := rfl
  rw [hshape, readValue, hskip]
  simp only [takeText_quoted, Option.map_some]

/-! ## Arrays -/

theorem skip_closes {rest : List Char} (h : Closes rest) : skip rest = rest := by
  rcases h with ⟨t, rfl | rfl⟩ <;> rfl

/-- **Items with separators between them are read up to the closing bracket.** -/
theorem readItems_join {ss : List (List Char)} {fs : List (Form Literal)}
    (h : List.Forall₂ IsItem ss fs) (hne : ss ≠ []) (room : Nat) (rest : List Char) :
    ∀ fuel, ss.length < fuel →
      readItems fuel room (Text.join ',' ss ++ ']' :: rest) = some (fs, rest) := by
  induction h with
  | nil => exact absurd rfl hne
  | @cons s f ss fs hs htail ih =>
    intro fuel hfuel
    -- Each item takes one unit of fuel here and one in the reader of a value.
    obtain ⟨fuel, rfl⟩ : ∃ n, fuel = n + 2 := ⟨fuel - 2, by simp at hfuel; omega⟩
    cases htail with
    | nil =>
      rw [Text.join, readItems, hs.read fuel room (']' :: rest) ⟨rest, .inr rfl⟩]
      simp [skip_closes ⟨rest, .inr rfl⟩]
    | @cons t g ts gs ht htail =>
      have hrec := ih (by simp) (fuel + 1) (by simp at hfuel ⊢; omega)
      have hcl : Closes (',' :: (Text.join ',' (t :: ts) ++ ']' :: rest)) := ⟨_, .inl rfl⟩
      have hshape : Text.join ',' (s :: t :: ts) ++ ']' :: rest =
          s ++ ',' :: (Text.join ',' (t :: ts) ++ ']' :: rest) := by
        simp [Text.join]
      rw [hshape, readItems, hs.read fuel room _ hcl]
      simp only [skip_closes hcl, hrec, Option.map_some]

/-- No item is empty, so the text has room for the fuel that reading it takes. -/
theorem length_le_length_join {ss : List (List Char)} {fs : List (Form Literal)}
    (h : List.Forall₂ IsItem ss fs) : ss.length ≤ (Text.join ',' ss).length := by
  induction h with
  | nil => simp
  | @cons s f ss fs hs htail ih =>
    obtain ⟨c, r, rfl, -, -⟩ := hs.first
    cases htail with
    | nil => simp [Text.join]
    | cons => simp only [Text.join, List.length_cons, List.length_append] at ih ⊢; omega

/-- **An array of items is read as the forms of its items.** -/
theorem ofText?_array {ss : List (List Char)} {fs : List (Form Literal)}
    (h : List.Forall₂ IsItem ss fs) {room : Nat} (hroom : 0 < room) :
    Form.ofText? room ('[' :: Text.join ',' ss ++ [']']) = some (.array fs) := by
  obtain ⟨room, rfl⟩ : ∃ n, room = n + 1 := ⟨room - 1, by omega⟩
  have hlen := length_le_length_join h
  cases h with
  | nil => rfl
  | @cons s f ss fs hs htail =>
    have hall : List.Forall₂ IsItem (s :: ss) (f :: fs) := .cons hs htail
    obtain ⟨c, r, hsc, hspace, hbracket⟩ := hs.first
    -- The bracket that ends an array without items is told apart by the first character.
    have hbody : ∃ u, Text.join ',' (s :: ss) ++ [']'] = c :: u := by
      rw [hsc]
      cases ss <;> exact ⟨_, rfl⟩
    obtain ⟨u, hu⟩ := hbody
    have hskip : skip (c :: u) = c :: u := by
      simp [skip, hspace]
    have hfuel : 2 * ('[' :: Text.join ',' (s :: ss) ++ [']']).length + 1 =
        (2 * (Text.join ',' (s :: ss)).length + 4) + 1 := by
      simp only [List.cons_append, List.length_cons, List.length_append, List.length_nil]
      omega
    have hitems := readItems_join hall (by simp) room [] (2 * (Text.join ',' (s :: ss)).length + 4)
      (by omega)
    have hopen : skip ('[' :: (c :: u)) = '[' :: c :: u := rfl
    unfold Form.ofText?
    rw [hfuel, List.cons_append, hu, readValue, hopen]
    rw [hu] at hitems
    simp only [Nat.add_one_ne_zero, if_false, hskip, Nat.add_sub_cancel]
    split
    · rename_i heq
      split at heq
      · rename_i hc
        cases hc
        exact absurd rfl hbracket
      · rw [hitems] at heq
        simp only [Option.map_some, Option.some.injEq, Prod.mk.injEq] at heq
        obtain ⟨rfl, rfl⟩ := heq
        rfl
    · rename_i heq
      split at heq
      · rename_i hc
        cases hc
        exact absurd rfl hbracket
      · rw [hitems] at heq
        cases heq

end Json
end Infochart
