import Infochart.Proofs.Decimal.Digits
import Infochart.Proofs.Drawing.Scanned
import Infochart.Chart.Palette
import Infochart.Layout.Path
import Infochart.Theme

/-!
# Texts without markup

A value between quotes may be written as it is when it holds none of the characters that markup
gives a meaning to. Numbers hold none of them, however large or small, and neither do the colors of
the palettes and of the two themes.
-/

namespace Infochart.Drawing

open Layout (Path Move Precision Written)

/-- The characters that markup gives a meaning to. -/
def marks : List Char := ['<', '>', '&', '"', '\'']

/-- Whether a text holds no markup. -/
def IsPlain (s : String) : Prop :=
  ∀ c ∈ s.toList, c ∉ marks

instance (s : String) : Decidable (IsPlain s) :=
  inferInstanceAs (Decidable (∀ c ∈ s.toList, c ∉ marks))

theorem escapeChar_of_not_mem {c : Char} (h : c ∉ marks) : escapeChar c = [c] := by
  have hne : ∀ d ∈ marks, c ≠ d := by
    rintro d hd rfl
    exact h hd
  unfold escapeChar
  rw [if_neg (hne '&' (by decide)), if_neg (hne '<' (by decide)), if_neg (hne '>' (by decide)),
    if_neg (hne '"' (by decide)), if_neg (hne '\'' (by decide))]

/-- A text without markup is its own escape. -/
theorem IsPlain.escape_eq {s : String} (h : IsPlain s) : escape s.toList = s.toList := by
  have hchars : ∀ cs : List Char, (∀ c ∈ cs, c ∉ marks) → escape cs = cs := by
    intro cs hcs
    induction cs with
    | nil => rfl
    | cons c cs ih =>
      have hcons : escape (c :: cs) = escapeChar c ++ escape cs := List.flatMap_cons
      rw [hcons, escapeChar_of_not_mem (hcs c List.mem_cons_self),
        ih fun d hd => hcs d (List.mem_cons_of_mem c hd)]
      rfl
  exact hchars s.toList h

theorem IsPlain.append {a b : String} (ha : IsPlain a) (hb : IsPlain b) : IsPlain (a ++ b) := by
  intro c hc
  rw [String.toList_append] at hc
  rcases List.mem_append.1 hc with hc | hc
  · exact ha c hc
  · exact hb c hc

/-! ## Numbers -/

theorem hasNumerals_marks : Decimal.HasNumerals (· ∉ marks) := by
  have hmarks : ∀ d ∈ marks, d.isDigit = false := by decide
  refine ⟨fun c hc hmem => ?_, by decide, by decide⟩
  rw [hmarks c hmem] at hc
  cases hc

/-- A number with all its digits holds no markup. -/
theorem isPlain_plain (x : Float) : IsPlain (Decimal.plain x) :=
  hasNumerals_marks.plain (.inr (by decide))

/-- A number with a fixed number of places holds no markup. -/
theorem isPlain_places (n : Nat) (x : Float) : IsPlain (Decimal.places n x) :=
  hasNumerals_marks.places (.inr (by decide)) n

/-! ## Paths -/

/-- The characters of texts put together are those of the separator and of the texts. -/
theorem mem_intercalate {sep : String} {texts : List String} {c : Char}
    (h : c ∈ (sep.intercalate texts).toList) : c ∈ sep.toList ∨ ∃ s ∈ texts, c ∈ s.toList := by
  induction texts with
  | nil => cases h
  | cons s r ih =>
    cases r with
    | nil =>
      rw [String.intercalate_singleton] at h
      exact .inr ⟨s, List.mem_cons_self, h⟩
    | cons u r =>
      rw [String.intercalate_cons_cons, String.toList_append, String.toList_append] at h
      rcases List.mem_append.1 h with h | h
      · rcases List.mem_append.1 h with h | h
        · exact .inr ⟨s, List.mem_cons_self, h⟩
        · exact .inl h
      · refine (ih h).imp_right ?_
        rintro ⟨v, hv, hc⟩
        exact ⟨v, List.mem_cons_of_mem s hv, hc⟩

section Letters

variable {α : Type}

/-- The numbers of a pen movement. -/
def moveNumbers : Move α → List α
  | .moveTo x y => [x, y]
  | .lineTo x y => [x, y]
  | .arcTo radius _ x y => [radius, x, y]
  | .close => []

/-- The characters of a path that do not come from its numbers. -/
def pathLetters : List Char := ['M', 'L', 'A', 'Z', ' ', ',', '0', '1']

variable [Written α]

/-- Whether a character stands in a number, with two places or with all digits. -/
def Writes (x : α) (c : Char) : Prop :=
  c ∈ (Written.places 2 x).toList ∨ c ∈ (Written.full x).toList

theorem mem_point {p : Precision} {x y : α} {c : Char} (h : c ∈ (p.point x y).toList) :
    c ∈ pathLetters ∨ Writes x c ∨ Writes y c := by
  have hcomma : ∀ d ∈ ",".toList, d ∈ pathLetters := by decide
  cases p with
  | twoPlaces =>
    rw [show (Precision.twoPlaces.point x y) = Written.places 2 x ++ "," ++ Written.places 2 y
      from rfl, String.toList_append, String.toList_append] at h
    rcases List.mem_append.1 h with h | h
    · exact (List.mem_append.1 h).elim (fun h => .inr (.inl (.inl h))) fun h => .inl (hcomma c h)
    · exact .inr (.inr (.inl h))
  | allDigits =>
    rw [show (Precision.allDigits.point x y) = Written.full x ++ "," ++ Written.full y
      from rfl, String.toList_append, String.toList_append] at h
    rcases List.mem_append.1 h with h | h
    · exact (List.mem_append.1 h).elim (fun h => .inr (.inl (.inr h))) fun h => .inl (hcomma c h)
    · exact .inr (.inr (.inr h))

theorem mem_move {p : Precision} {m : Move α} {c : Char} (h : c ∈ (m.text p).toList) :
    c ∈ pathLetters ∨ ∃ x ∈ moveNumbers m, Writes x c := by
  have hletters : ∀ s ∈ ["M ", "L ", "Z", "A ", ",", " 0 ", ",1 ", "0", "1"], ∀ d ∈ s.toList,
      d ∈ pathLetters := by decide
  have hpoint {x y : α} (h : c ∈ (p.point x y).toList) :
      c ∈ pathLetters ∨ ∃ z ∈ [x, y], Writes z c := by
    rcases mem_point h with h | h | h
    · exact .inl h
    · exact .inr ⟨x, by simp, h⟩
    · exact .inr ⟨y, by simp, h⟩
  cases m with
  | moveTo x y =>
    rw [show (Move.moveTo x y).text p = "M " ++ p.point x y from rfl, String.toList_append] at h
    exact (List.mem_append.1 h).elim (fun h => .inl (hletters _ (by simp) c h)) hpoint
  | lineTo x y =>
    rw [show (Move.lineTo x y).text p = "L " ++ p.point x y from rfl, String.toList_append] at h
    exact (List.mem_append.1 h).elim (fun h => .inl (hletters _ (by simp) c h)) hpoint
  | close => exact .inl (hletters "Z" (by simp) c h)
  | arcTo radius large x y =>
    have hlarge : (if large then "1" else "0") ∈
        ["M ", "L ", "Z", "A ", ",", " 0 ", ",1 ", "0", "1"] := by cases large <;> decide
    have hradius (h : c ∈ (Written.full radius).toList) :
        ∃ z ∈ moveNumbers (.arcTo radius large x y), Writes z c :=
      ⟨radius, List.mem_cons_self, .inr h⟩
    rw [show (Move.arcTo radius large x y).text p = "A " ++ Written.full radius ++ "," ++
      Written.full radius ++ " 0 " ++ (if large then "1" else "0") ++ ",1 " ++ p.point x y
      from rfl] at h
    simp only [String.toList_append, List.mem_append] at h
    rcases h with ((((((h | h) | h) | h) | h) | h) | h) | h
    · exact .inl (hletters _ (by simp) c h)
    · exact .inr (hradius h)
    · exact .inl (hletters _ (by simp) c h)
    · exact .inr (hradius h)
    · exact .inl (hletters _ (by simp) c h)
    · exact .inl (hletters _ hlarge c h)
    · exact .inl (hletters _ (by simp) c h)
    · refine (hpoint h).imp_right ?_
      rintro ⟨z, hz, hc⟩
      exact ⟨z, List.mem_cons_of_mem radius hz, hc⟩

/-- **A path consists of its letters and of its numbers.** -/
theorem mem_path {p : Path α} {c : Char} (h : c ∈ p.text.toList) :
    c ∈ pathLetters ∨ ∃ m ∈ p.moves, ∃ x ∈ moveNumbers m, Writes x c := by
  have hblank : ∀ d ∈ " ".toList, d ∈ pathLetters := by decide
  rcases mem_intercalate h with h | ⟨s, hs, h⟩
  · exact .inl (hblank c h)
  · obtain ⟨m, hm, rfl⟩ := List.mem_map.1 hs
    exact (mem_move h).imp_right fun hx => ⟨m, hm, hx⟩

end Letters

/-- A path holds no markup. -/
theorem isPlain_path (p : Path Float) : IsPlain p.text := by
  have hletters : ∀ d ∈ pathLetters, d ∉ marks := by decide
  intro c hc
  rcases mem_path hc with h | ⟨m, -, x, -, h | h⟩
  · exact hletters c h
  · exact isPlain_places 2 x c h
  · exact isPlain_plain x c h

/-! ## Colors -/

/-- The colors of the palettes hold no markup. -/
theorem isPlain_of_mem_palette : ∀ p ∈ Chart.Palette.all, ∀ c ∈ p.colors, IsPlain c := by
  decide +kernel

theorem isPlain_of_mem_resolve (name : String) :
    ∀ c ∈ (Chart.Palette.resolve name).colors, IsPlain c :=
  isPlain_of_mem_palette _ (Chart.Palette.resolve_mem name)

/-- However colors are repeated, they are colors of the palette. -/
theorem isPlain_colorAt {colors : List String} (h : ∀ c ∈ colors, IsPlain c) (i : Nat) :
    IsPlain (Chart.colorAt colors i) := by
  unfold Chart.colorAt
  simp only
  have hall : ∀ c ∈ (if colors.isEmpty then Chart.Palette.corporate.colors else colors),
      IsPlain c := by
    split
    · exact isPlain_of_mem_palette _ List.mem_cons_self
    · exact h
  generalize (if colors.isEmpty then Chart.Palette.corporate.colors else colors) = cs at hall
  cases hget : cs[i % cs.length]? with
  | none => decide
  | some c => exact hall c (List.mem_of_getElem? hget)

/-- A theme whose colors hold no markup. Its font may be any text, since it is escaped. -/
structure HasPlainColors (t : Theme Float) : Prop where
  textColor : IsPlain t.textColor
  axisColor : IsPlain t.axisColor
  gridColor : IsPlain t.gridColor
  ringColor : IsPlain t.ringColor
  spokeColor : IsPlain t.spokeColor
  dividerColor : IsPlain t.dividerColor
  connectorColor : IsPlain t.connectorColor
  onFillTextColor : IsPlain t.onFillTextColor
  background : IsPlain t.background
  placeholderBackground : IsPlain t.placeholderBackground
  placeholderBorder : IsPlain t.placeholderBorder
  placeholderTextColor : IsPlain t.placeholderTextColor

theorem hasPlainColors_classic : HasPlainColors Theme.classic := by
  constructor <;> decide

theorem hasPlainColors_modern : HasPlainColors Theme.modern := by
  constructor <;> decide

end Infochart.Drawing
