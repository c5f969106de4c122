import Infochart.Proofs.Property.RoundTrip
import Infochart.Proofs.Property.Short

/-!
# Which lists survive

A description that has been read is written and read again, and the question is which of its lists are
still there with their numbers. No value of a description that has been read goes over two lines, so every
value is read back on its own (`get?_read_csv`). A list then stays a list unless the largest number stands
in it, and its numbers stay equal exactly if each of them survives (`list_survives_iff`). Numbers with
short decimals do.
-/

namespace Infochart
namespace Property

/-! ## Values on one line -/

theorem newline_not_mem_of_read {l value : List Char} {id : Id} (hl : '\n' ∉ l)
    (h : Line.read l = .entry id value) : '\n' ∉ value := by
  cases reads_iff.2 h with
  | entry hs hc hid =>
    intro hm
    have hrest : '\n' ∈ Text.trim l := by
      rw [hs]
      exact List.mem_append_right _ (List.mem_cons_of_mem ',' (Text.mem_of_mem_trim hm))
    exact hl (Text.mem_of_mem_trim hrest)

/-- A value that stands on one line is written on one line. -/
theorem newline_not_mem_decodeValue {s : List Char} (h : '\n' ∉ s) :
    '\n' ∉ (decodeValue s).lineText := by
  unfold decodeValue
  split
  · split
    · exact newline_not_mem_arrayText _
    · refine newline_not_mem_lineText_text ?_
      rwa [String.toList_ofList]
  · split
    · refine newline_not_mem_lineText_text ?_
      rw [String.toList_ofList]
      exact fun hm => h (List.mem_of_mem_drop (List.mem_of_mem_dropLast hm))
    · refine newline_not_mem_lineText_text ?_
      rwa [String.toList_ofList]

theorem mem_put {id : Id} {v : Value} {es : List (Id × Value)} {e : Id × Value}
    (h : e ∈ put id v es) : e = (id, v) ∨ e ∈ es := by
  induction es with
  | nil => exact .inl (List.mem_singleton.1 h)
  | cons f r ih =>
    obtain ⟨k, w⟩ := f
    by_cases hk : k = id
    · rw [put, if_pos hk, List.mem_cons] at h
      rcases h with rfl | h
      · exact .inl (by rw [hk])
      · exact .inr (List.mem_cons_of_mem _ h)
    · rw [put, if_neg hk, List.mem_cons] at h
      rcases h with rfl | h
      · exact .inr List.mem_cons_self
      · exact (ih h).imp_right (List.mem_cons_of_mem _)

theorem Map.mem_insertAll {m : Map} {es : List (Id × Value)} {e : Id × Value}
    (h : e ∈ (m.insertAll es).entries) : e ∈ m.entries ∨ e ∈ es := by
  induction es using List.reverseRecOn with
  | nil => exact .inl h
  | append_singleton es f ih =>
    rw [Map.insertAll_append] at h
    rcases mem_put h with rfl | h
    · exact .inr (List.mem_append_right es List.mem_cons_self)
    · exact (ih h).imp_right (List.mem_append_left [f])

/-- **Every value that has been read stands on a line.** -/
theorem exists_line_of_mem {s : List Char} {e : Id × Value} (he : e ∈ (parse s).map.entries) :
    ∃ l ∈ Text.cut s, ∃ value, Line.read l = .entry e.1 value ∧ e.2 = decodeValue value := by
  by_cases hs : Text.allBlank s = true
  · unfold parse at he
    rw [if_pos hs] at he
    cases he
  · rw [map_parse (by simpa using hs)] at he
    rcases Map.mem_insertAll he with he | he
    · cases he
    · obtain ⟨k, hk, hentry⟩ := List.mem_filterMap.1 he
      obtain ⟨l, hl, rfl⟩ := List.mem_map.1 hk
      cases hread : Line.read l with
      | blank =>
        rw [hread] at hentry
        cases hentry
      | malformed error =>
        rw [hread] at hentry
        cases hentry
      | entry id value =>
        rw [hread] at hentry
        cases hentry
        exact ⟨l, hl, value, hread, rfl⟩

/-- **What has been read is written with one line for each value.** -/
theorem newline_not_mem_parse (s : List Char) :
    ∀ e ∈ (parse s).map.entries, '\n' ∉ e.2.lineText := by
  intro e he
  obtain ⟨l, hl, value, hread, hvalue⟩ := exists_line_of_mem he
  rw [hvalue]
  exact newline_not_mem_decodeValue (newline_not_mem_of_read (Text.not_mem_of_mem_cut hl) hread)

/-! ## Descriptions read back -/

theorem lookup_map (f : Value → Value) (id : Id) (es : List (Id × Value)) :
    lookup id (es.map fun e => (e.1, f e.2)) = (lookup id es).map f := by
  induction es with
  | nil => rfl
  | cons e r ih =>
    obtain ⟨k, v⟩ := e
    rw [List.map_cons, lookup, lookup, ih]
    split <;> rfl

/-- **Writing and reading a description reads each of its values back.** -/
theorem get?_read_csv (input : String) (id : Id) :
    (read (read input).map.csv).map.get? id = ((read input).map.get? id).map reread := by
  have hparse : read (read input).map.csv = parse (read input).map.lines := by
    unfold read Map.csv
    rw [String.toList_ofList]
  have hlines : ∀ e ∈ (read input).map.entries, '\n' ∉ e.2.lineText :=
    newline_not_mem_parse input.toList
  rw [hparse]
  generalize (read input).map = m at hlines ⊢
  by_cases hne : m.entries = []
  · have hnil : m.lines = [] := by
      unfold Map.lines
      rw [hne]
      rfl
    have hnone : m.get? id = none := by
      unfold Map.get?
      rw [hne]
      rfl
    rw [hnil, hnone]
    rfl
  · rw [map_parse_lines hne hlines]
    exact lookup_map reread id m.entries

/-! ## Lists -/

/-- Whether two lists are of one length, and where a number stands in the first an equal one stands in the
    second. -/
def SameNumbers (items back : List Scalar) : Prop :=
  List.Forall₂ (fun a b => ∀ x, a = .number x → ∃ y, b = .number y ∧ (x == y) = true) items back

theorem mapM_eq_some_iff {α β : Type} {f : α → Option β} {as : List α} {bs : List β} :
    as.mapM f = some bs ↔ List.Forall₂ (fun a b => f a = some b) as bs := by
  induction as generalizing bs with
  | nil =>
    rw [List.mapM_nil, List.forall₂_nil_left_iff]
    exact ⟨fun h => (Option.some.inj h).symm, fun h => h ▸ rfl⟩
  | cons a r ih =>
    rw [List.mapM_cons, List.forall₂_cons_left_iff]
    cases f a with
    | none => simp
    | some b =>
      cases hr : r.mapM f with
      | none => simp [← ih, hr]
      | some cs => simp [← ih, hr, eq_comm]

theorem exists_forall₂_iff {α β : Type} {R : α → β → Prop} {as : List α} :
    (∃ bs, List.Forall₂ R as bs) ↔ ∀ a ∈ as, ∃ b, R a b := by
  induction as with
  | nil => simp
  | cons a r ih =>
    rw [List.forall_mem_cons, ← ih]
    constructor
    · rintro ⟨bs, hall⟩
      cases hall with
      | cons hb hbs => exact ⟨⟨_, hb⟩, ⟨_, hbs⟩⟩
    · rintro ⟨⟨b, hb⟩, ⟨bs, hbs⟩⟩
      exact ⟨b :: bs, .cons hb hbs⟩

/-- The numbers of a list are looked at item by item. -/
theorem forall_number_iff {items : List Scalar} {P : Float → Prop} :
    (∀ a ∈ items, ∀ x, a = .number x → P x) ↔ ∀ x, .number x ∈ items → P x :=
  ⟨fun h x hx => h _ hx x rfl, fun h _ ha x hax => h x (hax ▸ ha)⟩

theorem Scalar.exists_readBack?_iff (a : Scalar) :
    (∃ b, a.readBack? = some b) ↔ ∀ x, a = .number x → Decimal.isLargest x = false := by
  rw [← Option.isSome_iff_exists]
  cases a with
  | text s => simp [Scalar.readBack?]
  | number x => simp [Scalar.readBack?, isSome_readBack?]

theorem Scalar.exists_same_iff (a : Scalar) :
    (∃ b, a.readBack? = some b ∧ ∀ x, a = .number x → ∃ y, b = .number y ∧ (x == y) = true) ↔
      ∀ x, a = .number x → survives x = true := by
  cases a with
  | text s => simp [Scalar.readBack?]
  | number x =>
    unfold Scalar.readBack? survives
    cases hx : Property.readBack? x with
    | none => simp [hx]
    | some y => simp [hx]

/-- A list is read back if each of its numbers is. -/
theorem exists_mapM_readBack?_iff (items : List Scalar) :
    (∃ back, items.mapM Scalar.readBack? = some back) ↔
      ∀ x, .number x ∈ items → Decimal.isLargest x = false := by
  simp only [mapM_eq_some_iff, exists_forall₂_iff, Scalar.exists_readBack?_iff, forall_number_iff]

/-- A list is read back with the same numbers if each of them survives. -/
theorem exists_sameNumbers_iff (items : List Scalar) :
    (∃ back, items.mapM Scalar.readBack? = some back ∧ SameNumbers items back) ↔
      ∀ x, .number x ∈ items → survives x = true := by
  rw [← forall_number_iff]
  simp only [← Scalar.exists_same_iff, mapM_eq_some_iff]
  rw [← exists_forall₂_iff]
  constructor
  · rintro ⟨back, hread, hsame⟩
    exact ⟨back, hread.mp (fun _ _ => And.intro) hsame⟩
  · rintro ⟨back, hboth⟩
    exact ⟨back, hboth.imp fun _ _ => And.left, hboth.imp fun _ _ => And.right⟩

theorem reread_eq_list_iff {items back : List Scalar} :
    reread (.list items) = .list back ↔ items.mapM Scalar.readBack? = some back := by
  rw [reread_items]
  cases items.mapM Scalar.readBack? with
  | none => simp
  | some bs => simp

section Lists

variable {input : String} {id : Id} {items : List Scalar}

theorem exists_list_iff (h : (read input).map.get? id = some (.list items)) :
    (∃ back, (read (read input).map.csv).map.get? id = some (.list back)) ↔
      ∀ x, .number x ∈ items → Decimal.isLargest x = false := by
  rw [get?_read_csv, h, Option.map_some]
  simp only [Option.some.injEq, reread_eq_list_iff]
  exact exists_mapM_readBack?_iff items

theorem exists_list_sameNumbers_iff (h : (read input).map.get? id = some (.list items)) :
    (∃ back, (read (read input).map.csv).map.get? id = some (.list back) ∧
        SameNumbers items back) ↔
      ∀ x, .number x ∈ items → survives x = true := by
  rw [get?_read_csv, h, Option.map_some]
  simp only [Option.some.injEq, reread_eq_list_iff]
  exact exists_sameNumbers_iff items

/-- **Lists of numbers with short decimals survive.** -/
theorem list_survives_of_hasShortDecimal (h : (read input).map.get? id = some (.list items))
    (hshort : ∀ x, .number x ∈ items → HasShortDecimal x) :
    ∃ back, (read (read input).map.csv).map.get? id = some (.list back) ∧
      SameNumbers items back :=
  (exists_list_sameNumbers_iff h).2 fun x hx => survives_of_hasShortDecimal (hshort x hx)

/-- **Which lists survive.** A list of a description that has been read is a list again, when the
    description is written and read, exactly if none of its numbers is the largest one of either
    sign; and it is a list of the same length with the same numbers exactly if each of them
    survives. Numbers with short decimals do. -/
theorem list_survives_iff (h : (read input).map.get? id = some (.list items)) :
    ((∃ back, (read (read input).map.csv).map.get? id = some (.list back)) ↔
      ∀ x, .number x ∈ items → Decimal.isLargest x = false) ∧
    ((∃ back, (read (read input).map.csv).map.get? id = some (.list back) ∧
        SameNumbers items back) ↔
      ∀ x, .number x ∈ items → survives x = true) ∧
    ((∀ x, .number x ∈ items → HasShortDecimal x) →
      ∃ back, (read (read input).map.csv).map.get? id = some (.list back) ∧
        SameNumbers items back) :=
  ⟨exists_list_iff h, exists_list_sameNumbers_iff h, list_survives_of_hasShortDecimal h⟩

end Lists

/-- What an identifier holds, looked at without comparing numbers. -/
theorem exists_list_of_any {input : String} {id : Id} {p : List Scalar → Bool}
    (h : (((read input).map.get? id).bind Value.list?).any p = true) :
    ∃ items, (read input).map.get? id = some (.list items) ∧ p items = true := by
  cases hv : (read input).map.get? id with
  | none =>
    rw [hv] at h
    cases h
  | some v =>
    rw [hv] at h
    cases v with
    | text s => cases h
    | list items => exact ⟨items, rfl, h⟩

/-- Whether an item is left as it is when it is written and read. -/
def Scalar.survives : Scalar → Bool
  | .number x => Property.survives x
  | .text _ => true

/-- A text between an integer of 54 bits and a quarter. -/
theorem list_survives_between :
    ∃ items, (read "701,[9007199254740993,\"a\",-0.25]").map.get? (Known.dataset 1).id =
        some (.list items) ∧ items.length = 3 ∧
      ∃ back, (read (read "701,[9007199254740993,\"a\",-0.25]").map.csv).map.get?
          (Known.dataset 1).id = some (.list back) ∧ SameNumbers items back := by
  obtain ⟨items, hitems, hall⟩ :=
    @exists_list_of_any "701,[9007199254740993,\"a\",-0.25]" (Known.dataset 1).id
      (fun items => decide (items.length = 3) && items.all Scalar.survives) (by decide +kernel)
  rw [Bool.and_eq_true, decide_eq_true_eq, List.all_eq_true] at hall
  exact ⟨items, hitems, hall.1, (list_survives_iff hitems).2.1.2 fun x hx => hall.2 _ hx⟩

/-- Sixteen digits are too long for a binary number, so that the reader rounds twice. -/
theorem not_list_survives :
    ¬ ∀ (input : String) (id : Id) (items : List Scalar),
      (read input).map.get? id = some (.list items) →
      ∃ back, (read (read input).map.csv).map.get? id = some (.list back) ∧
        SameNumbers items back := by
  intro hall
  obtain ⟨items, hitems, hany⟩ :=
    @exists_list_of_any "701,[0.9183096397115566]" (Known.dataset 1).id
      (fun items => items.any (!·.survives)) (by decide +kernel)
  have hsame := (exists_list_sameNumbers_iff hitems).1 (hall _ _ _ hitems)
  obtain ⟨a, ha, hlost⟩ := List.any_eq_true.1 hany
  cases a with
  | text s => cases hlost
  | number x =>
    have hlost' : (!survives x) = true := hlost
    rw [hsame x ha] at hlost'
    cases hlost'

end Property
end Infochart
