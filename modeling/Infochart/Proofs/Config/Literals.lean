import Infochart.Proofs.Config.CanvasOrder
import Infochart.Proofs.Json.Finite

/-!
# The numbers of a settings file

The numbers that a settings file can say are those that its literals stand for (`readings_ofForm`). In the
strict format they are finite, and in the relaxed one they are unless a literal is one of the two words
for an infinity and for an undefined number. So without such a word every number that is read from a
field is finite (`IsFinite.field`).

The literals are collected from all of the data, also from members that no record knows. That is more than
is read, but it is what makes the property go down from a value to its members and items without looking at
the fields of any record.
-/

namespace Infochart.Config

open Json (Form Piece)

/-! ## Literals and readings -/

mutual

/-- The readings of all literals in some data. -/
def Node.readings : Node → List Reading
  | .number r => [r]
  | .array items => itemReadings items
  | .object members => memberReadings members
  | _ => []

def itemReadings : List Node → List Reading
  | [] => []
  | n :: r => n.readings ++ itemReadings r

def memberReadings : List (Option String × Node) → List Reading
  | [] => []
  | (_, n) :: r => n.readings ++ memberReadings r

end

section Literals

variable {ν : Type}

mutual

/-- All literals in some data. -/
def formLiterals : Form ν → List ν
  | .number l => [l]
  | .array items => itemLiterals items
  | .object members => memberLiterals members
  | _ => []

def itemLiterals : List (Form ν) → List ν
  | [] => []
  | t :: r => formLiterals t ++ itemLiterals r

def memberLiterals : List (List Piece × Form ν) → List ν
  | [] => []
  | (_, t) :: r => formLiterals t ++ memberLiterals r

end

mutual

/-- The readings are those of the literals. -/
theorem readings_ofForm (m : Meaning ν) : ∀ t : Form ν,
    (ofForm m t).readings = (formLiterals t).map m.reading
  | .null => rfl
  | .bool _ => rfl
  | .number _ => rfl
  | .text _ => rfl
  | .array items => itemReadings_ofItems m items
  | .object members => memberReadings_ofMembers m members

theorem itemReadings_ofItems (m : Meaning ν) : ∀ items : List (Form ν),
    itemReadings (ofItems m items) = (itemLiterals items).map m.reading
  | [] => rfl
  | t :: r => by
    rw [ofItems, itemReadings, itemLiterals, List.map_append, readings_ofForm, itemReadings_ofItems]

theorem memberReadings_ofMembers (m : Meaning ν) : ∀ members : List (List Piece × Form ν),
    memberReadings (ofMembers m members) = (memberLiterals members).map m.reading
  | [] => rfl
  | (k, t) :: r => by
    rw [ofMembers, memberReadings, memberLiterals, List.map_append, readings_ofForm,
      memberReadings_ofMembers]

end

end Literals

/-! ## Finite numbers -/

/-- Whether a literal gives only finite numbers, whoever asks for them. -/
structure Reading.IsFinite (r : Reading) : Prop where
  real : ∀ x ∈ r.real, Decimal.isFinite x = true
  free : ∀ x ∈ r.free, Decimal.isFinite x = true

/-- Whether all literals in some data give only finite numbers. -/
def Node.IsFinite (n : Node) : Prop :=
  ∀ r ∈ n.readings, r.IsFinite

/-- Integers of 64 bits are in range, with either sign. -/
theorem isFinite_ofNat {n : Nat} (hn : n ≤ 2 ^ 64) (negative : Bool) :
    Decimal.isFinite (if negative then -(Float.ofNat n) else Float.ofNat n) = true := by
  obtain ⟨v, hv⟩ := (Json.isSmall_ofNat hn).exists_value
  exact Decimal.isFinite_iff.2 (Json.value?_signed hv negative)

/-- A strict literal that is too large is no number at all, so no reading of it is infinite. -/
theorem isFinite_strictReading (l : Json.Literal) : (strictReading l).IsFinite := by
  suffices h : ∀ x ∈ (strictReading l).real, Decimal.isFinite x = true from ⟨h, h⟩
  intro x hx
  unfold strictReading at hx
  cases hvalue : l.value? with
  | none =>
    rw [hvalue] at hx
    cases hx
  | some v =>
    rw [hvalue] at hx
    rcases Json.Literal.value?_cases hvalue with ⟨n, rfl, hn⟩ | ⟨y, rfl, hy⟩
    · cases hx
      simpa using isFinite_ofNat hn (decide (n < 0))
    · cases hx
      exact hy

/-- Whether a literal is one of the words for an infinity and for an undefined number. -/
def IsWord (l : Json.Relaxed.Literal) : Prop :=
  l.body = .infinite ∨ l.body = .undefined

theorem isFinite_hexadecimal {digits : List Char} {x : Float}
    (h : (hexadecimal? digits).map Float.ofNat = some x) : Decimal.isFinite x = true := by
  obtain ⟨n, hn, rfl⟩ := Option.map_eq_some_iff.1 h
  unfold hexadecimal? at hn
  simp only at hn
  split at hn
  case isTrue hsmall =>
    cases hn
    exact isFinite_ofNat (hsmall.le.trans (Nat.pow_le_pow_right (by decide) (by decide))) false
  case isFalse => cases hn

/-- The cases are those of the reader: four for the words, then hexadecimal and decimal digits. Of decimal
    digits the reader itself asks that the number is finite. -/
theorem isFinite_relaxedReal {l : Json.Relaxed.Literal} (hl : ¬ IsWord l) {x : Float}
    (h : relaxedReal l = some x) : Decimal.isFinite x = true := by
  unfold relaxedReal at h
  split at h
  case h_1 hbody => exact absurd (.inl hbody) hl
  case h_2 hbody => exact absurd (.inl hbody) hl
  case h_3 hbody => exact absurd (.inr hbody) hl
  case h_4 hbody => exact absurd (.inr hbody) hl
  case h_5 => exact isFinite_hexadecimal h
  case h_6 =>
    simp only at h
    split at h
    case isTrue hfinite =>
      cases h
      exact hfinite
    case isFalse => cases h
  case h_7 => cases h

/-- Where either a number or a text may stand, an integer has to fit 63 bits and a sign; each branch that
    gives a number has checked that. -/
theorem isFinite_relaxedInteger {l : Json.Relaxed.Literal} {x : Float}
    (h : relaxedInteger? l = some (some x)) : Decimal.isFinite x = true := by
  have hbits : 2 ^ 63 ≤ 2 ^ 64 := Nat.pow_le_pow_right (by decide) (by decide)
  unfold relaxedInteger? at h
  split at h
  case h_1 digits =>
    split at h
    case isTrue => exact isFinite_hexadecimal (Option.some.inj h)
    case isFalse => cases h
  case h_2 whole =>
    simp only [Option.some.injEq] at h
    split at h
    case isTrue =>
      split at h
      case isTrue hsmall =>
        cases h
        exact isFinite_ofNat (hsmall.le.trans hbits) false
      case isFalse => cases h
    case isFalse =>
      split at h
      case isTrue =>
        cases h
        exact isFinite_ofNat (Nat.zero_le _) false
      case isFalse =>
        split at h
        case isTrue hsmall =>
          cases h
          exact isFinite_ofNat (hsmall.trans hbits) true
        case isFalse => cases h
  case h_3 => cases h

theorem isFinite_relaxedReading {l : Json.Relaxed.Literal} (hl : ¬ IsWord l) :
    (relaxedReading l).IsFinite where
  real _ hx := isFinite_relaxedReal hl hx
  free := by
    intro x hx
    unfold relaxedReading at hx
    simp only at hx
    cases hinteger : relaxedInteger? l with
    | none =>
      rw [hinteger] at hx
      exact isFinite_relaxedReal hl hx
    | some o =>
      rw [hinteger] at hx
      cases hx
      exact isFinite_relaxedInteger hinteger

/-- The strict format has no word for what is not finite. -/
theorem isFinite_strictNode {s : List Char} {n : Node} (h : strictNode? s = some n) : n.IsFinite := by
  obtain ⟨t, -, rfl⟩ := Option.map_eq_some_iff.1 h
  intro r hr
  rw [readings_ofForm] at hr
  obtain ⟨l, -, rfl⟩ := List.mem_map.1 hr
  exact isFinite_strictReading l

/-- Whether a text, as one in the relaxed format, has a word in place of a number. -/
def HasWord (s : List Char) : Prop :=
  ∃ t, Json.Relaxed.form? s = some t ∧ ∃ l ∈ formLiterals t, IsWord l

theorem isFinite_relaxedNode {s : List Char} {n : Node} (h : relaxedNode? s = some n)
    (hs : ¬ HasWord s) : n.IsFinite := by
  obtain ⟨t, ht, rfl⟩ := Option.map_eq_some_iff.1 h
  intro r hr
  rw [readings_ofForm] at hr
  obtain ⟨l, hl, rfl⟩ := List.mem_map.1 hr
  exact isFinite_relaxedReading fun hword => hs ⟨t, ht, l, hl, hword⟩

/-! ## Fields -/

/-- The property of an array goes over to its items. -/
theorem Node.IsFinite.item {items : List Node} {n : Node} (h : (Node.array items).IsFinite)
    (hn : n ∈ items) : n.IsFinite := by
  intro r hr
  refine h r ?_
  show r ∈ itemReadings items
  clear h
  induction items with
  | nil => cases hn
  | cons m rest ih =>
    rw [itemReadings, List.mem_append]
    rcases List.mem_cons.1 hn with rfl | hn
    · exact .inl hr
    · exact .inr (ih hn)

/-- The property of an object goes over to its members, whatever their keys. -/
theorem Node.IsFinite.member {members : List (Option String × Node)} {e : Option String × Node}
    (h : (Node.object members).IsFinite) (he : e ∈ members) : e.2.IsFinite := by
  intro r hr
  refine h r ?_
  show r ∈ memberReadings members
  clear h
  induction members with
  | nil => cases he
  | cons m rest ih =>
    rw [memberReadings, List.mem_append]
    rcases List.mem_cons.1 he with rfl | he
    · exact .inl hr
    · exact .inr (ih he)

/-- The members that are kept are some of all members. -/
theorem mem_of_knownMembers {m : Manner} {fields : List String} {members : List (Option String × Node)}
    {known : List (String × Node)} (h : knownMembers m fields members = some known)
    {e : String × Node} (he : e ∈ known) : (some e.1, e.2) ∈ members := by
  induction members generalizing known with
  | nil =>
    cases h
    cases he
  | cons member rest ih =>
    obtain ⟨key, n⟩ := member
    rw [knownMembers] at h
    simp only [Option.bind_eq_bind, Option.bind_eq_some_iff] at h
    obtain ⟨key, rfl, kept, hkept, h⟩ := h
    have hrest := fun (he : e ∈ kept) => List.mem_cons_of_mem (some key, n) (ih hkept he)
    split at h
    case isTrue =>
      split at h
      case isTrue => cases h
      case isFalse =>
        cases h
        rcases List.mem_cons.1 he with rfl | he
        · exact List.mem_cons_self
        · exact hrest he
    case isFalse =>
      split at h
      case isTrue => cases h
      case isFalse =>
        cases h
        exact hrest he

theorem mem_of_lookup {β : Type} {key : String} {entries : List (String × β)} {b : β}
    (h : entries.lookup key = some b) : (key, b) ∈ entries := by
  obtain ⟨before, behind, rfl, -⟩ := List.lookup_eq_some_iff.1 h
  exact List.mem_append_right before List.mem_cons_self

/-- What is looked up in a list of such data, with nothing in place of what is missing. -/
theorem Node.isFinite_lookup {entries : List (String × Node)} (h : ∀ e ∈ entries, e.2.IsFinite)
    (key : String) : ((entries.lookup key).getD .null).IsFinite := by
  cases hlookup : entries.lookup key with
  | none => exact fun r hr => absurd hr List.not_mem_nil
  | some n => exact h _ (mem_of_lookup hlookup)

/-- **The fields of a record without such words hold none.** -/
theorem Node.IsFinite.field {m : Manner} {fields : List String} {n : Node} (h : n.IsFinite)
    {field : String → Node} (hfield : n.record m fields = some field) (name : String) :
    (field name).IsFinite := by
  unfold Node.record at hfield
  split at hfield
  case h_1 members =>
    obtain ⟨known, hknown, hfield⟩ := Option.bind_eq_some_iff.1 hfield
    cases hfield
    exact Node.isFinite_lookup (fun e he => h.member (mem_of_knownMembers hknown he)) name
  case h_2 items =>
    split at hfield
    case isTrue =>
      cases hfield
      exact Node.isFinite_lookup (fun e he => h.item (List.of_mem_zip he).2) name
    case isFalse => cases hfield
  case h_3 => cases hfield

theorem Node.IsFinite.real {n : Node} (h : n.IsFinite) {x : Float} (hx : n.real = some x) :
    Decimal.isFinite x = true := by
  unfold Node.real at hx
  split at hx
  case h_1 r => exact (h r List.mem_cons_self).real x hx
  case h_2 => cases hx

/-- What is said of a value where it is read holds of it where it may be missing. -/
theorem of_optional {β : Type} {read : Node → Option β} {P : β → Prop} {n : Node} {o : Option β}
    (ho : n.optional read = some o) (h : ∀ b, read n = some b → P b) : ∀ b ∈ o, P b := by
  unfold Node.optional at ho
  split at ho
  case h_1 =>
    cases ho
    intro b hb
    cases hb
  case h_2 =>
    obtain ⟨b, hb, rfl⟩ := Option.map_eq_some_iff.1 ho
    intro b' hb'
    cases hb'
    exact h b hb

theorem Node.IsFinite.optional_real {n : Node} (h : n.IsFinite) {o : Option Float}
    (ho : n.optional Node.real = some o) : ∀ x ∈ o, Decimal.isFinite x = true :=
  of_optional ho fun _ hx => h.real hx

/-! ## Records of settings -/

theorem canvasOverride_isFinite {m : Manner} {n : Node} (h : n.IsFinite) {o : CanvasOverride}
    (ho : canvasOverride m n = some o) :
    (∀ x ∈ o.width, Decimal.isFinite x = true) ∧ ∀ x ∈ o.height, Decimal.isFinite x = true := by
  unfold canvasOverride at ho
  simp only [Option.bind_eq_bind, Option.bind_eq_some_iff, Option.pure_def, Option.some.injEq] at ho
  obtain ⟨field, hfield, width, hwidth, height, hheight, rfl⟩ := ho
  exact ⟨(h.field hfield _).optional_real hwidth, (h.field hfield _).optional_real hheight⟩

/-- The entries are built one behind the other, and a later one drops an earlier one with the same key; so
    what holds of every entry is kept by each step (`of_foldlM`). -/
theorem canvasOverrides_isFinite {m : Manner} {n : Node} (h : n.IsFinite)
    {entries : List (String × CanvasOverride)} (hentries : canvasOverrides m n = some entries) :
    ∀ e ∈ entries, (∀ x ∈ e.2.width, Decimal.isFinite x = true) ∧
      ∀ x ∈ e.2.height, Decimal.isFinite x = true := by
  unfold canvasOverrides at hentries
  split at hentries
  case h_1 members =>
    refine of_foldlM (P := fun done => ∀ e ∈ done, (∀ x ∈ e.2.width, Decimal.isFinite x = true) ∧
      ∀ x ∈ e.2.height, Decimal.isFinite x = true) ?_ hentries (fun e he => by cases he)
    rintro done member hmember done' hstep hdone e he
    simp only [Option.bind_eq_bind, Option.bind_eq_some_iff, Option.pure_def, Option.some.injEq]
      at hstep
    obtain ⟨key, -, change, hchange, rfl⟩ := hstep
    rcases List.mem_append.1 he with he | he
    · exact hdone e (List.mem_filter.1 he).1
    · obtain rfl := List.mem_singleton.1 he
      exact canvasOverride_isFinite (h.member hmember) hchange
  case h_2 => cases hentries

theorem radarOverrides_isFinite {m : Manner} {n : Node} (h : n.IsFinite) {o : RadarOverrides}
    (ho : radarOverrides m n = some o) : ∀ x ∈ o.fillOpacity, Decimal.isFinite x = true := by
  unfold radarOverrides at ho
  simp only [Option.bind_eq_bind, Option.bind_eq_some_iff, Option.pure_def, Option.some.injEq] at ho
  obtain ⟨field, hfield, -, -, -, -, opacity, hopacity, rfl⟩ := ho
  exact (h.field hfield _).optional_real hopacity

/-- A size that is finite or written as a text, which may name an infinity in any format. -/
def IsWritten (x : Float) : Prop :=
  Decimal.isFinite x = true ∨ ∃ t, fontSizeText t = some x

/-- A font size may be a text with a unit behind the number. Such texts have a reader of their own, which
    knows infinities in both formats. -/
theorem isWritten_fontSize {n : Node} (h : n.IsFinite) {o : Option Float} (ho : fontSize n = some o) :
    ∀ x ∈ o, IsWritten x := by
  rintro x rfl
  unfold fontSize at ho
  split at ho
  case h_1 => cases ho
  case h_2 r =>
    obtain ⟨y, hy, hxy⟩ := Option.map_eq_some_iff.1 ho
    cases hxy
    exact .inl ((h r List.mem_cons_self).free x hy)
  case h_3 t =>
    obtain ⟨t, -, ht⟩ := Option.map_eq_some_iff.1 ho
    exact .inr ⟨t, ht⟩
  case h_4 => cases ho

/-- Whether every font size is finite or written as a text. -/
structure ThemeOverrides.HasWrittenSizes (o : ThemeOverrides) : Prop where
  text : ∀ x ∈ o.fontSize, IsWritten x
  title : ∀ x ∈ o.titleFontSize, IsWritten x
  small : ∀ x ∈ o.smallFontSize, IsWritten x

theorem themeOverrides_hasWrittenSizes {m : Manner} {n : Node} (h : n.IsFinite) {o : ThemeOverrides}
    (ho : themeOverrides m n = some o) : o.HasWrittenSizes := by
  unfold themeOverrides at ho
  obtain ⟨field, hfield, ho⟩ := Option.bind_eq_some_iff.1 ho
  obtain ⟨_, -, ho⟩ := Option.bind_eq_some_iff.1 ho
  obtain ⟨size, hsize, ho⟩ := Option.bind_eq_some_iff.1 ho
  obtain ⟨title, htitle, ho⟩ := Option.bind_eq_some_iff.1 ho
  obtain ⟨small, hsmall, ho⟩ := Option.bind_eq_some_iff.1 ho
  -- The other twelve fields are colors.
  iterate 12 obtain ⟨_, -, ho⟩ := Option.bind_eq_some_iff.1 ho
  cases ho
  exact {
    text := isWritten_fontSize (h.field hfield _) hsize
    title := isWritten_fontSize (h.field hfield _) htitle
    small := isWritten_fontSize (h.field hfield _) hsmall }

end Infochart.Config
