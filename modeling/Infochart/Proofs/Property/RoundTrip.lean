import Infochart.Proofs.Property.Format
import Infochart.Proofs.Property.Written

/-!
# Maps read back

Writing a map and reading the text gives the map again. Every entry is one line, since neither a text
without line feeds nor a list is written over two; each of these lines is read as its own entry, and
entries with different identifiers are inserted where they stood. What remains is what `Written` says
about single values.
-/

namespace Infochart
namespace Property

/-- Whether a scalar is a text or an integer of at most 53 bits. -/
def Scalar.IsExact : Scalar → Prop
  | .text _ => True
  | .number x => ∃ n : Int, n.natAbs ≤ 2 ^ 53 ∧ (x == Float.ofInt n) = true

/-- Whether a value is a text on one line, or a list of texts and of integers of at most 53 bits. -/
def Value.IsExact : Value → Prop
  | .text s => '\n' ∉ s.toList
  | .list items => ∀ a ∈ items, a.IsExact

theorem Scalar.IsExact.readsAs {a : Scalar} (h : a.IsExact) :
    ∃ b, a.ReadsAs b ∧ a.same b = true := by
  cases a with
  | text s => exact ⟨.text s, Scalar.readsAs_text s, beq_self_eq_true s⟩
  | number x =>
    obtain ⟨n, hn, hx⟩ := h
    exact ⟨.number (Float.ofInt n), Scalar.readsAs_integer hn hx, hx⟩

theorem exists_readsAs {as : List Scalar} (h : ∀ a ∈ as, a.IsExact) :
    ∃ bs, List.Forall₂ Scalar.ReadsAs as bs ∧ sameItems as bs = true := by
  induction as with
  | nil => exact ⟨[], .nil, rfl⟩
  | cons a r ih =>
    obtain ⟨b, hb, hsame⟩ := (h a List.mem_cons_self).readsAs
    obtain ⟨bs, hbs, hrest⟩ := ih fun c hc => h c (List.mem_cons_of_mem a hc)
    refine ⟨b :: bs, .cons hb hbs, ?_⟩
    rw [sameItems, hsame, hrest]
    rfl

/-- One value. -/
theorem Value.IsExact.same_reread {v : Value} (h : v.IsExact) : v.same (reread v) = true := by
  cases v with
  | text s =>
    rw [reread_text]
    exact beq_self_eq_true s
  | list items =>
    obtain ⟨bs, hbs, hsame⟩ := exists_readsAs h
    rw [reread_list hbs]
    exact hsame

theorem Value.IsExact.newline_not_mem {v : Value} (h : v.IsExact) : '\n' ∉ v.lineText := by
  cases v with
  | text s => exact newline_not_mem_lineText_text h
  | list items => exact newline_not_mem_arrayText items

/-! ## The lines of a map -/

theorem Map.lines_eq (m : Map) :
    m.lines = (m.entries.map fun e => lineOf e.1 e.2).flatMap (· ++ ['\n']) := by
  rw [List.flatMap_map]
  rfl

theorem readings_lines {m : Map} (h : ∀ e ∈ m.entries, '\n' ∉ e.2.lineText) :
    readings m.lines =
      (m.entries.map fun e => Line.entry e.1 (Text.trim e.2.lineText)) ++ [.blank] := by
  have hlines : ∀ l ∈ m.entries.map fun e => lineOf e.1 e.2, '\n' ∉ l := by
    intro l hl
    obtain ⟨e, he, rfl⟩ := List.mem_map.1 hl
    exact newline_not_mem_lineOf (h e he)
  have hread := readings_flatMap hlines []
  rw [List.append_nil] at hread
  rw [m.lines_eq, hread, List.map_map]
  congr 1
  refine List.map_congr_left fun e _ => ?_
  exact Line.read_lineOf e.1 e.2

theorem allBlank_lines {m : Map} (h : m.entries ≠ []) : Text.allBlank m.lines = false := by
  obtain ⟨e, r, he⟩ := List.exists_cons_of_ne_nil h
  have hcomma : ',' ∈ m.lines := by
    rw [m.lines_eq, he]
    simp [lineOf]
  rw [← Bool.not_eq_true, Text.allBlank_iff]
  exact fun hall => absurd (hall ',' hcomma) (by decide)

/-- The map whose values are the values of `m` read back. -/
def Map.rereadAll (m : Map) : Map where
  entries := m.entries.map fun e => (e.1, reread e.2)
  nodup := by
    rw [List.map_map]
    exact m.nodup

/-- **The lines of a map are read as the map with every value read back.** -/
theorem map_parse_lines {m : Map} (hne : m.entries ≠ [])
    (h : ∀ e ∈ m.entries, '\n' ∉ e.2.lineText) : (parse m.lines).map = m.rereadAll := by
  have hentries : entriesOf (readings m.lines) = m.rereadAll.entries := by
    have hblank : entriesOf [Line.blank] = [] := rfl
    rw [readings_lines h, entriesOf_append, hblank, List.append_nil]
    unfold entriesOf
    rw [List.filterMap_map]
    show List.filterMap (some ∘ fun e => (e.1, reread e.2)) m.entries = _
    rw [List.filterMap_eq_map]
    rfl
  rw [map_parse (allBlank_lines hne), hentries, Map.insertAll_entries]

theorem problems_parse_lines {m : Map} (hne : m.entries ≠ [])
    (h : ∀ e ∈ m.entries, '\n' ∉ e.2.lineText) : (parse m.lines).problems = [] := by
  rw [problems_parse (allBlank_lines hne), problemsFrom_eq_nil_iff, readings_lines h]
  intro k hk
  rcases List.mem_append.1 hk with hk | hk
  · obtain ⟨e, -, rfl⟩ := List.mem_map.1 hk
    rfl
  · rw [List.mem_singleton.1 hk]
    rfl

/-- **A map that is written and read is the same map.** For every map of texts without line feeds and of
    lists of texts and of integers of at most 53 bits, reading what has been written gives the same
    identifiers in the same order with the same values, and nothing is reported but the emptiness of
    an empty map. -/
theorem read_csv (m : Map) (h : ∀ e ∈ m.entries, e.2.IsExact) :
    List.Forall₂ (fun a b => a.1 = b.1 ∧ a.2.same b.2 = true) m.entries
        (read m.csv).map.entries ∧
      (read m.csv).problems = if m.entries.isEmpty then [.noInput] else [] := by
  have hparse : read m.csv = parse m.lines := by
    unfold read Map.csv
    rw [String.toList_ofList]
  have hlines : ∀ e ∈ m.entries, '\n' ∉ e.2.lineText := fun e he => (h e he).newline_not_mem
  rw [hparse]
  -- The empty map is written as the empty text, the one text that is reported as blank.
  by_cases hne : m.entries = []
  · have hnil : m.lines = [] := by
      unfold Map.lines
      rw [hne]
      rfl
    rw [hnil, hne]
    exact ⟨.nil, rfl⟩
  · have hempty : m.entries.isEmpty = false := by simpa using hne
    rw [map_parse_lines hne hlines, problems_parse_lines hne hlines, hempty]
    refine ⟨?_, rfl⟩
    show List.Forall₂ _ m.entries (m.entries.map fun e => (e.1, reread e.2))
    rw [List.forall₂_map_right_iff, List.forall₂_same]
    exact fun e he => ⟨rfl, (h e he).same_reread⟩

/-- A title that has quotes at one end and a carriage return at the other, and labels over two lines next
    to the smallest integer of 53 bits. -/
theorem read_csv_title_and_labels :
    List.Forall₂ (fun a b => a.1 = b.1 ∧ a.2.same b.2 = true)
        ((Map.empty.insert Known.title.id (.text "\"Q1\r")).insert Known.labels.id
          (.list [.text "a\nb", .number (Float.ofInt (-2 ^ 53))])).entries
        (read ((Map.empty.insert Known.title.id (.text "\"Q1\r")).insert Known.labels.id
          (.list [.text "a\nb", .number (Float.ofInt (-2 ^ 53))])).csv).map.entries ∧
      (read ((Map.empty.insert Known.title.id (.text "\"Q1\r")).insert Known.labels.id
        (.list [.text "a\nb", .number (Float.ofInt (-2 ^ 53))])).csv).problems = [] := by
  refine read_csv _ fun e he => ?_
  have hentries : e = (Known.title.id, .text "\"Q1\r") ∨
      e = (Known.labels.id, .list [.text "a\nb", .number (Float.ofInt (-2 ^ 53))]) := by
    simpa [Map.insert, Map.empty, put, Known.id, Known.number] using he
  rcases hentries with rfl | rfl
  · show '\n' ∉ "\"Q1\r".toList
    decide
  · intro a ha
    have hitems : a = .text "a\nb" ∨ a = .number (Float.ofInt (-2 ^ 53)) := by
      simpa using ha
    rcases hitems with rfl | rfl
    · trivial
    · exact ⟨-2 ^ 53, by decide, by decide +kernel⟩

end Property
end Infochart
