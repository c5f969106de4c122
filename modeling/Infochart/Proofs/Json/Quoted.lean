import Infochart.Json.Reader
import Infochart.Json.Writer

/-!
# Texts in quotes read back

The writer escapes one character at a time and the reader takes one escape at a time, so the two
meet in a statement about one character in front of an arbitrary rest (`takeText_escapeChar`). A
control character without an escape of its own comes back as a unit of UTF-16 and not as a
character; `decode` turns it into one again, since it lies far below the surrogates.
-/

namespace Infochart
namespace Json

theorem hexDigit?_hexChar : ∀ n, n < 16 → hexDigit? (hexChar n) = some n := by decide

/-- The piece that a character is read back as. -/
def writtenPiece (c : Char) : Piece :=
  if c.toNat < 0x20 ∧ escapeChar c = ['\\', 'u', '0', '0', hexChar (c.toNat / 16),
      hexChar (c.toNat % 16)] then .unit c.toNat
  else .char c

/-- A unit below the surrogates stands for itself and does not wait for another one. -/
theorem decode_writtenPiece (join : Nat → Nat → Char) (c : Char) (ps : List Piece) :
    decode join (writtenPiece c :: ps) = (decode join ps).map (c :: ·) := by
  unfold writtenPiece
  split
  · rename_i h
    have hlow : c.toNat < 0xD800 ∨ 0xE000 ≤ c.toNat := by omega
    rw [decode.eq_def]
    simp only [if_pos hlow, Char.ofNat_toNat]
  · rw [decode]

/-- The escapes of one letter. -/
theorem takeText_short {c x : Char} {rest : List Char} (hu : c ≠ 'u') (hx : escaped? c = some x) :
    takeText ('\\' :: c :: rest) = (takeText rest).map fun (ps, t) => (.char x :: ps, t) := by
  rw [takeText.eq_def]
  split
  · simp_all
  · simp_all
  · simp_all
  · rename_i heq
    cases heq
    rw [hx]
  · rename_i hne heq
    cases heq
    exact absurd rfl (hne c rest rfl)

theorem takeText_unit {n : Nat} {rest : List Char} (h : n < 0x20) :
    takeText ('\\' :: 'u' :: '0' :: '0' :: hexChar (n / 16) :: hexChar (n % 16) :: rest) =
      (takeText rest).map fun (ps, t) => (.unit n :: ps, t) := by
  have h0 : hexDigit? '0' = some 0 := by decide
  have h1 := hexDigit?_hexChar (n / 16) (by omega)
  have h2 := hexDigit?_hexChar (n % 16) (by omega)
  have hcode : hexCode? '0' '0' (hexChar (n / 16)) (hexChar (n % 16)) = some n := by
    simp only [hexCode?, h0, h1, h2, Option.bind_eq_bind, Option.bind_some, Option.pure_def,
      Option.some.injEq]
    omega
  rw [takeText, hcode]

theorem takeText_plain {c : Char} {rest : List Char} (hq : c ≠ '"') (hb : c ≠ '\\')
    (hc : ¬ c.toNat < 0x20) :
    takeText (c :: rest) = (takeText rest).map fun (ps, t) => (.char c :: ps, t) := by
  rw [takeText.eq_def]
  split
  · simp_all
  · simp_all
  · simp_all
  · simp_all
  · rename_i heq
    cases heq
    rw [if_neg (by simp [hb, hc])]

/-- **One character, in front of any rest.** -/
theorem takeText_escapeChar (c : Char) (rest : List Char) :
    takeText (escapeChar c ++ rest) =
      (takeText rest).map fun (ps, t) => (writtenPiece c :: ps, t) := by
  -- The cases are those of the writer: seven escapes of one letter, the units, and the rest.
  by_cases h1 : c = '"'
  · subst h1
    exact takeText_short (by decide) rfl
  by_cases h2 : c = '\\'
  · subst h2
    exact takeText_short (by decide) rfl
  by_cases h3 : c = '\x08'
  · subst h3
    exact takeText_short (by decide) rfl
  by_cases h4 : c = '\x0c'
  · subst h4
    exact takeText_short (by decide) rfl
  by_cases h5 : c = '\n'
  · subst h5
    exact takeText_short (by decide) rfl
  by_cases h6 : c = '\r'
  · subst h6
    exact takeText_short (by decide) rfl
  by_cases h7 : c = '\t'
  · subst h7
    exact takeText_short (by decide) rfl
  by_cases h8 : c.toNat < 0x20
  · have he : escapeChar c =
        ['\\', 'u', '0', '0', hexChar (c.toNat / 16), hexChar (c.toNat % 16)] := by
      simp [escapeChar, h1, h2, h3, h4, h5, h6, h7, h8]
    have hp : writtenPiece c = .unit c.toNat := by
      unfold writtenPiece
      rw [if_pos ⟨h8, he⟩]
    rw [he, hp]
    exact takeText_unit h8
  · have he : escapeChar c = [c] := by
      simp [escapeChar, h1, h2, h3, h4, h5, h6, h7, h8]
    have hp : writtenPiece c = .char c := by
      unfold writtenPiece
      rw [if_neg fun hand => h8 hand.1]
    rw [he, hp]
    exact takeText_plain h1 h2 h8

/-- A quoted text is read up to its quote, in front of any rest. -/
theorem takeText_quoted (s rest : List Char) :
    takeText (s.flatMap escapeChar ++ '"' :: rest) = some (s.map writtenPiece, rest) := by
  induction s with
  | nil => simp [takeText]
  | cons c r ih =>
    rw [List.flatMap_cons, List.append_assoc, takeText_escapeChar, ih]
    rfl

theorem decode_map_writtenPiece (join : Nat → Nat → Char) (s : List Char) :
    decode join (s.map writtenPiece) = some s := by
  induction s with
  | nil => rw [List.map_nil, decode]
  | cons c r ih =>
    rw [List.map_cons, decode_writtenPiece, ih]
    rfl

/-! ## What a quoted text looks like -/

theorem escapeChar_ne_newline (c : Char) : '\n' ∉ escapeChar c := by
  unfold escapeChar
  split
  · decide
  split
  · decide
  split
  · decide
  split
  · decide
  split
  · decide
  split
  · decide
  split
  · decide
  split
  · rename_i hc
    have hall : ∀ n, n < 16 → '\n' ≠ hexChar n := by decide
    have h1 := hall (c.toNat / 16) (by omega)
    have h2 := hall (c.toNat % 16) (by omega)
    simp [h1, h2]
  · rename_i h _ _ _
    simpa using fun he => h he.symm

theorem newline_not_mem_quote (s : List Char) : '\n' ∉ quote s := by
  have hbody : '\n' ∉ s.flatMap escapeChar := by
    intro h
    obtain ⟨c, -, hc⟩ := List.mem_flatMap.1 h
    exact escapeChar_ne_newline c hc
  simp [quote, hbody]

end Json
end Infochart
