import Infochart.Proofs.Sheet.Kept

/-!
# What a merge does to the description

A sheet is merged into a description by lines, and lines without a value are left out. To the reader such
a line is a value like any other, an empty one, and it takes back what earlier lines said. So a merge
leaves the values of a description as they are, with one exception that is stated here exactly: an
identifier that a line without a value has cleared gets back the value that it had before.
-/

namespace Infochart
namespace Sheet

open Property (Id Known Value Line readings entriesOf)

/-- Whether a line says anything behind its comma. -/
def isFilled : Line → Bool
  | .entry _ value => !value.isEmpty
  | _ => false

/-- Whether a description takes a value back: the last line of the identifier has nothing behind its
    comma, and the last one of its lines that has something there gives the value, which is not
    empty. -/
def Clears (base : String) (id : Id) (value : Value) : Prop :=
  ∃ before after, readings base.toList = before ++ .entry id [] :: after ∧
    id ∉ (entriesOf after).map Prod.fst ∧
    lastValue id (before.filter isFilled) = some value ∧ value.isEmpty = false

/-- Whether two texts say the same under an identifier, where an empty value says nothing. -/
def SaysSame (id : Id) (s t : String) : Prop :=
  ((Property.read t).map.hasValue id = true ↔ (Property.read s).map.hasValue id = true) ∧
    ((Property.read s).map.hasValue id = true →
      (Property.read t).map.get? id = (Property.read s).map.get? id)

/-! ## Filled lines and kept lines -/

theorem lastValue_filter_cons (id : Id) (p : Line → Bool) (k : Line) (ks : List Line) :
    lastValue id ((k :: ks).filter p) =
      (lastValue id (ks.filter p)).or (if p k = true then lastValue id [k] else none) := by
  by_cases hp : p k = true
  · rw [List.filter_cons_of_pos hp, lastValue_cons, if_pos hp]
  · rw [List.filter_cons_of_neg hp, if_neg hp, Option.or_none]

/-- Of the lines of a kept identifier exactly the filled ones are kept. -/
theorem lastValue_filter_isFilled {id : Id} (hid : isKeptId id = true) (ks : List Line) :
    lastValue id (ks.filter isFilled) = lastValue id (ks.filter keeps) := by
  induction ks with
  | nil => rfl
  | cons k ks ih =>
    rw [lastValue_filter_cons, lastValue_filter_cons, ih]
    congr 1
    cases k with
    | blank => rfl
    | malformed e => rfl
    | entry j value =>
      have hentry : Line.entry? (.entry j value) = some (j, Property.decodeValue value) := rfl
      rw [lastValue_singleton hentry]
      -- A line of another identifier leaves nothing here, whether it is kept or not.
      by_cases hj : j = id
      · subst hj
        have hsame : keeps (.entry j value) = isFilled (.entry j value) := by
          show (isKeptId j && !value.isEmpty) = !value.isEmpty
          rw [hid, Bool.true_and]
        rw [hsame]
      · rw [if_neg hj, ite_self, ite_self]

/-! ## Values before and after -/

section Base

variable {base : String} (hblank : Text.allBlank base.toList = false)
include hblank

theorem get?_read (id : Id) :
    (Property.read base).map.get? id = lastValue id (readings base.toList) :=
  get?_parse hblank id

/-- **A value that has been taken back is kept.** -/
theorem Clears.values {id : Id} {value : Value} (hid : isKeptId id = true)
    (h : Clears base id value) :
    (Property.read base).map.hasValue id = false ∧
      lastValue id ((readings base.toList).filter keeps) = some value := by
  obtain ⟨before, after, heq, hafter, hvalue, -⟩ := h
  rw [hasValue_eq_any hblank, heq, lastValue_last hafter, lastValue_filter_of_nil hafter,
    ← lastValue_filter_isFilled hid, hvalue]
  exact ⟨rfl, rfl⟩

/-- **Where nothing has been taken back, the kept lines have the values of the description.** -/
theorem lastValue_kept_of_not_clears {id : Id} (hid : isKeptId id = true)
    (h : ∀ value, ¬ Clears base id value) :
    ((lastValue id ((readings base.toList).filter keeps)).any (!·.isEmpty) = true ↔
        (Property.read base).map.hasValue id = true) ∧
      ((Property.read base).map.hasValue id = true →
        lastValue id ((readings base.toList).filter keeps) =
          (Property.read base).map.get? id) := by
  rw [hasValue_eq_any hblank, get?_read hblank]
  have hsame := @lastValue_filter_keeps id hid (readings base.toList)
  refine ⟨⟨fun hkept => ?_, fun hbase => ?_⟩, hsame⟩
  · -- The last line of the identifier is filled, and then it is kept, or it would take a value back.
    rcases exists_last id (readings base.toList) with hnot | ⟨before, value, after, heq, hafter⟩
    · rw [lastValue_eq_none_iff.2 fun hmem => hnot (mem_keys_filter hmem)] at hkept
      cases hkept
    rw [heq] at hkept ⊢
    by_cases hvalue : value = []
    · subst hvalue
      rw [lastValue_filter_of_nil hafter, ← lastValue_filter_isFilled hid] at hkept
      obtain ⟨v, hv, hne⟩ := Option.any_eq_true _ _ |>.1 hkept
      have hfilled : v.isEmpty = false := by simpa using hne
      exact absurd ⟨before, after, heq, hafter, hv, hfilled⟩ (h v)
    · rw [lastValue_filter_of_filled hid hafter hvalue] at hkept
      rw [lastValue_last hafter]
      exact hkept
  · rw [hsame hbase]
    exact hbase

end Base

namespace Grid

/-- **What a merge does to the description.** A sheet with headers and rows whose second header is on one
    line is merged into every description of a chart. Of the identifiers from 100 to 599, the result says
    the same as the description under those that the description has not cleared; under those that it
    has cleared it says nothing, and the result has the value that was there before. -/
theorem merge_restores_cleared {base : String} {g : Grid}
    (hbase : (Property.read base).map.hasValue Known.visualizationType.id = true)
    (hheaders : g.headers ≠ []) (hrows : g.rows ≠ [])
    (hunit : ∀ unit ∈ g.headers[1]?, '\n' ∉ unit.toList) :
    ∃ out, g.mergeInto base = .ok out ∧ ∀ id : Id, 100 ≤ id.toNat → id.toNat ≤ 599 →
      ((∀ value, ¬ Clears base id value) → SaysSame id base out) ∧
      ∀ value, Clears base id value → (Property.read base).map.hasValue id = false ∧
        (Property.read out).map.hasValue id = true ∧
        (Property.read out).map.get? id = some value := by
  have hblank := allBlank_of_hasValue hbase
  refine ⟨_, mergeInto_eq hbase hheaders hrows, fun id hlow hhigh => ?_⟩
  have hid : isKeptId id = true := by
    unfold isKeptId
    rw [decide_eq_true hlow, decide_eq_true hhigh]
    rfl
  have hmerged := get?_merged_of_isKeptId hunit base hid
  constructor
  · intro hclears
    unfold SaysSame
    unfold Property.Map.hasValue at *
    rw [hmerged]
    exact lastValue_kept_of_not_clears hblank hid hclears
  · intro value hclears
    obtain ⟨hnone, hkept⟩ := hclears.values hblank hid
    obtain ⟨-, -, -, -, -, hvalue⟩ := hclears
    refine ⟨hnone, ?_, hmerged.trans hkept⟩
    unfold Property.Map.hasValue
    rw [hmerged, hkept, Option.any_some, hvalue]
    rfl

/-- A title that is taken back, next to the type of the chart, which is not. -/
theorem merge_restores_cleared_title :
    ∃ out, (Grid.mk ["Month", "Sales"] [["Jan", "10"]]).mergeInto
        "101,Bar Chart\n401,Sales\n401, " = .ok out ∧
      SaysSame Known.visualizationType.id "101,Bar Chart\n401,Sales\n401, " out ∧
      (Property.read "101,Bar Chart\n401,Sales\n401, ").map.hasValue Known.title.id = false ∧
      (Property.read out).map.get? Known.title.id = some (.text "Sales") := by
  obtain ⟨out, hout, hvalues⟩ := @merge_restores_cleared "101,Bar Chart\n401,Sales\n401, "
    ⟨["Month", "Sales"], [["Jan", "10"]]⟩ (by decide) (by decide) (by decide) (by decide)
  have hclears : Clears "101,Bar Chart\n401,Sales\n401, " Known.title.id (.text "Sales") :=
    ⟨[.entry Known.visualizationType.id "Bar Chart".toList, .entry Known.title.id "Sales".toList],
      [], rfl, List.not_mem_nil, rfl, rfl⟩
  obtain ⟨hnone, -, hback⟩ := (hvalues Known.title.id (by decide) (by decide)).2 _ hclears
  refine ⟨out, hout, (hvalues _ (by decide) (by decide)).1 fun value h => ?_, hnone, hback⟩
  have htaken := (h.values (by decide) (by decide)).1
  have hthere : (Property.read "101,Bar Chart\n401,Sales\n401, ").map.hasValue
      Known.visualizationType.id = true := by
    decide
  rw [hthere] at htaken
  cases htaken

/-- Merging a sheet brings back a title that had been taken back. -/
theorem not_merge_says_same :
    ¬ ∀ (base : String) (g : Grid),
      (Property.read base).map.hasValue Known.visualizationType.id = true → g.headers ≠ [] →
      g.rows ≠ [] → (∀ unit ∈ g.headers[1]?, '\n' ∉ unit.toList) →
      ∃ out, g.mergeInto base = .ok out ∧
        ∀ id : Id, 100 ≤ id.toNat → id.toNat ≤ 599 → SaysSame id base out := by
  intro hall
  obtain ⟨out, hout, hsame⟩ := hall "101,Bar Chart\n401,Sales\n401,"
    ⟨["Month", "Sales"], [["Jan", "10"]]⟩ (by decide) (by decide) (by decide) (by decide)
  rw [mergeInto_eq (by decide) (by decide) (by decide)] at hout
  obtain rfl := Except.ok.inj hout
  have htitle := (hsame Known.title.id (by decide) (by decide)).1
  have hback : (Property.read (String.ofList (keptLines "101,Bar Chart\n401,Sales\n401,".toList ++
      (Grid.mk ["Month", "Sales"] [["Jan", "10"]]).dataLines))).map.hasValue
        Known.title.id = true := by
    unfold Property.Map.hasValue
    rw [get?_merged_of_isKeptId (by decide) _ (by decide)]
    decide
  exact absurd (htitle.1 hback) (by decide)

end Grid

end Sheet
end Infochart
