import Infochart.Property.Map
import Mathlib.Data.List.Induction
import Mathlib.Data.List.Nodup

/-!
# Laws of property maps

A map is determined by the order of its keys and by the value of each key (`Map.ext_keys_get?`).
So what a series of insertions builds is said by two equations: `Map.get?_insertAll`, that the last
insertion of a key gives its value, and `Map.keys_insertAll`, that the first one gives its place.
Everything about repeated property lines, and about one description laid over another, follows from
these two.

Both are proved by induction from the end of the insertions, since it is the last insertion that decides
the value. The first occurrences of a list (`List.eraseDups`) are likewise taken apart at the end, where
one more element either is there already or comes behind all others.
-/

namespace Infochart
namespace Property

/-! ## First occurrences -/

theorem eraseDups_concat {l : List Id} {a : Id} :
    (l ++ [a]).eraseDups = if a ∈ l then l.eraseDups else l.eraseDups ++ [a] := by
  rw [List.eraseDups_append]
  by_cases h : a ∈ l
  · simp [List.cons_removeAll, h]
  · simp [List.cons_removeAll, h, List.eraseDups_cons]

theorem eraseDups_of_nodup {l : List Id} (h : l.Nodup) : l.eraseDups = l := by
  induction l using List.reverseRecOn with
  | nil => rfl
  | append_singleton l a ih =>
    rw [List.nodup_append] at h
    have ha : a ∉ l := fun hm => h.2.2 a hm a (by simp) rfl
    rw [eraseDups_concat, if_neg ha, ih h.1]

theorem eraseDups_append_eraseDups (l r : List Id) :
    (l.eraseDups ++ r.eraseDups).eraseDups = (l ++ r).eraseDups := by
  induction r using List.reverseRecOn with
  | nil =>
    rw [List.eraseDups_nil, List.append_nil, List.append_nil]
    induction l using List.reverseRecOn with
    | nil => rfl
    | append_singleton l a ih =>
      rw [eraseDups_concat]
      by_cases h : a ∈ l
      · rw [if_pos h, ih]
      · rw [if_neg h, eraseDups_concat, if_neg (by simpa using h), ih]
  | append_singleton r b ih =>
    rw [eraseDups_concat, ← List.append_assoc, eraseDups_concat]
    by_cases hr : b ∈ r
    · rw [if_pos hr, ih, if_pos (by simp [hr])]
    · rw [if_neg hr, ← List.append_assoc, eraseDups_concat, ih]
      by_cases hl : b ∈ l
      · rw [if_pos (by simp [hl]), if_pos (by simp [hl])]
      · rw [if_neg (by simp [hl, hr]), if_neg (by simp [hl, hr])]

/-! ## Entries -/

/-- What is in front hides what is behind. -/
theorem lookup_append {id : Id} {es fs : List (Id × Value)} :
    lookup id (es ++ fs) = (lookup id es).or (lookup id fs) := by
  induction es with
  | nil => rfl
  | cons e r ih =>
    obtain ⟨k, v⟩ := e
    by_cases h : k = id
    · simp [lookup, h]
    · simp [lookup, h, ih]

theorem lookup_eq_none_iff {id : Id} {es : List (Id × Value)} :
    lookup id es = none ↔ id ∉ es.map Prod.fst := by
  induction es with
  | nil => simp [lookup]
  | cons e r ih =>
    obtain ⟨k, v⟩ := e
    by_cases h : k = id
    · simp [lookup, h]
    · have h' : id ≠ k := fun he => h he.symm
      simp [lookup, h, h', ih]

theorem lookup_reverse_eq_none_iff {id : Id} {es : List (Id × Value)} :
    lookup id es.reverse = none ↔ id ∉ es.map Prod.fst := by
  rw [lookup_eq_none_iff, List.map_reverse, List.mem_reverse]

/-- Writing under a key changes what is found under that key only. -/
theorem lookup_put {id k : Id} {value : Value} {es : List (Id × Value)} :
    lookup k (put id value es) = if id = k then some value else lookup k es := by
  induction es with
  | nil => simp [put, lookup]
  | cons e r ih =>
    obtain ⟨j, w⟩ := e
    by_cases hj : j = id
    · subst hj
      by_cases hk : j = k
      · simp [put, lookup, hk]
      · simp [put, lookup, hk]
    · by_cases hk : j = k
      · subst hk
        have hij : id ≠ j := fun he => hj he.symm
        simp [put, lookup, hj, hij]
      · simp [put, lookup, hj, hk, ih]

/-- A key that is there keeps its place, and a new one comes last. -/
theorem keys_put {id : Id} {value : Value} {es : List (Id × Value)} :
    (put id value es).map Prod.fst =
      if id ∈ es.map Prod.fst then es.map Prod.fst else es.map Prod.fst ++ [id] := by
  induction es with
  | nil => simp [put]
  | cons e r ih =>
    obtain ⟨j, w⟩ := e
    by_cases hj : j = id
    · simp [put, hj]
    · have hj' : id ≠ j := fun he => hj he.symm
      simp only [put, if_neg hj, List.map_cons, ih, List.mem_cons, hj', false_or]
      split
      · rfl
      · rfl

/-- Where no key comes twice, it does not matter from which end the entries are searched. -/
theorem lookup_reverse {id : Id} {es : List (Id × Value)} (h : (es.map Prod.fst).Nodup) :
    lookup id es.reverse = lookup id es := by
  induction es with
  | nil => rfl
  | cons e r ih =>
    obtain ⟨k, v⟩ := e
    simp only [List.map_cons, List.nodup_cons] at h
    rw [List.reverse_cons, lookup_append, ih h.2]
    by_cases hk : k = id
    · subst hk
      rw [lookup_eq_none_iff.mpr h.1]
      simp [lookup]
    · simp [lookup, hk]

theorem lookup_of_mem {id : Id} {v : Value} {es : List (Id × Value)}
    (hn : (es.map Prod.fst).Nodup) (h : (id, v) ∈ es) : lookup id es = some v := by
  induction es with
  | nil => cases h
  | cons e r ih =>
    obtain ⟨k, w⟩ := e
    rw [List.map_cons, List.nodup_cons] at hn
    rcases List.mem_cons.1 h with heq | h
    · cases heq
      exact if_pos rfl
    · have hk : k ≠ id := by
        rintro rfl
        exact hn.1 (List.mem_map.2 ⟨_, h, rfl⟩)
      exact (if_neg hk).trans (ih hn.2 h)

/-- The order of the keys fixes the entries up to their values. That no key comes twice is needed, as a
    second entry under a key could not be found. -/
theorem entries_ext {es fs : List (Id × Value)} (hk : es.map Prod.fst = fs.map Prod.fst)
    (hn : (es.map Prod.fst).Nodup) (hl : ∀ id, lookup id es = lookup id fs) : es = fs := by
  induction es generalizing fs with
  | nil =>
    cases fs with
    | nil => rfl
    | cons _ _ => simp at hk
  | cons e r ih =>
    cases fs with
    | nil => simp at hk
    | cons f t =>
      obtain ⟨k, v⟩ := e
      obtain ⟨j, w⟩ := f
      simp only [List.map_cons, List.cons.injEq] at hk
      obtain ⟨rfl, hk⟩ := hk
      simp only [List.map_cons, List.nodup_cons] at hn
      have hvw : v = w := by simpa [lookup] using hl k
      subst hvw
      congr 1
      refine ih hk hn.2 fun id => ?_
      by_cases hid : k = id
      · subst hid
        rw [lookup_eq_none_iff.mpr hn.1, lookup_eq_none_iff.mpr (hk ▸ hn.1)]
      · simpa [lookup, hid] using hl id

namespace Map

/-- The identifiers of a map, in the order in which it goes through them. -/
def keys (m : Map) : List Id :=
  m.entries.map Prod.fst

/-- Inserts entries one after the other. -/
def insertAll (m : Map) (es : List (Id × Value)) : Map :=
  es.foldl (fun m e => m.insert e.1 e.2) m

/-- One map laid over another: its values win, and its new identifiers come behind. -/
def overlay (m n : Map) : Map :=
  m.insertAll n.entries

theorem nodup_keys (m : Map) : m.keys.Nodup := m.nodup

/-- **A map is its keys in order and the value of each.** -/
theorem ext_keys_get? {m n : Map} (hk : m.keys = n.keys) (hg : ∀ id, m.get? id = n.get? id) :
    m = n := by
  have he : m.entries = n.entries := entries_ext hk m.nodup hg
  cases m
  cases n
  cases he
  rfl

theorem get?_empty (id : Id) : empty.get? id = none := rfl

theorem keys_empty : empty.keys = [] := rfl

theorem get?_insert {m : Map} {id k : Id} {value : Value} :
    (m.insert id value).get? k = if id = k then some value else m.get? k :=
  lookup_put

theorem keys_insert {m : Map} {id : Id} {value : Value} :
    (m.insert id value).keys = if id ∈ m.keys then m.keys else m.keys ++ [id] :=
  keys_put

theorem insertAll_append {m : Map} {es fs : List (Id × Value)} :
    m.insertAll (es ++ fs) = (m.insertAll es).insertAll fs :=
  List.foldl_append

/-- The last insertion of a key gives its value. -/
theorem get?_insertAll {m : Map} {es : List (Id × Value)} {id : Id} :
    (m.insertAll es).get? id = (lookup id es.reverse).or (m.get? id) := by
  induction es using List.reverseRecOn with
  | nil => rfl
  | append_singleton es e ih =>
    obtain ⟨k, v⟩ := e
    have hstep : m.insertAll (es ++ [(k, v)]) = (m.insertAll es).insert k v := insertAll_append
    rw [hstep, get?_insert, List.reverse_append, List.reverse_singleton, List.singleton_append, ih]
    by_cases h : k = id
    · simp [lookup, h]
    · simp [lookup, h]

/-- The first insertion of a key gives its place. -/
theorem keys_insertAll {m : Map} {es : List (Id × Value)} :
    (m.insertAll es).keys = (m.keys ++ es.map Prod.fst).eraseDups := by
  induction es using List.reverseRecOn with
  | nil =>
    rw [List.map_nil, List.append_nil]
    exact (eraseDups_of_nodup m.nodup_keys).symm
  | append_singleton es e ih =>
    obtain ⟨k, v⟩ := e
    have hstep : m.insertAll (es ++ [(k, v)]) = (m.insertAll es).insert k v := insertAll_append
    rw [hstep, keys_insert, List.map_append, List.map_singleton, ← List.append_assoc,
      eraseDups_concat, ih]
    by_cases h : k ∈ m.keys ++ es.map Prod.fst
    · rw [if_pos (by simpa using h), if_pos h]
    · rw [if_neg (by simpa using h), if_neg h]

/-- The entries of a map have different keys, so it does not matter which of them is inserted last. -/
theorem get?_overlay {m n : Map} {id : Id} :
    (m.overlay n).get? id = (n.get? id).or (m.get? id) := by
  unfold overlay
  rw [get?_insertAll, lookup_reverse n.nodup]
  rfl

theorem keys_overlay {m n : Map} : (m.overlay n).keys = (m.keys ++ n.keys).eraseDups :=
  keys_insertAll

/-- Building a map from two lists of entries is laying the second map over the first. -/
theorem insertAll_empty_append {es fs : List (Id × Value)} :
    empty.insertAll (es ++ fs) = (empty.insertAll es).overlay (empty.insertAll fs) := by
  refine ext_keys_get? ?_ fun id => ?_
  · rw [keys_overlay, keys_insertAll, keys_insertAll, keys_insertAll, keys_empty, List.nil_append,
      List.nil_append, List.nil_append, List.map_append, eraseDups_append_eraseDups]
  · rw [get?_overlay, get?_insertAll, get?_insertAll, get?_insertAll, get?_empty,
      List.reverse_append, lookup_append]
    simp

section Behind

variable {es fs : List (Id × Value)}

/-- Different keys behind other keys stay where they are. -/
theorem keys_insertAll_behind (hn : (fs.map Prod.fst).Nodup)
    (hd : ∀ k ∈ fs.map Prod.fst, k ∉ es.map Prod.fst) :
    (empty.insertAll (es ++ fs)).keys = (es.map Prod.fst).eraseDups ++ fs.map Prod.fst := by
  -- None of the keys behind has been seen before, so none is dropped.
  have hremove : (fs.map Prod.fst).removeAll (es.map Prod.fst) = fs.map Prod.fst := by
    unfold List.removeAll
    rw [List.filter_eq_self]
    intro k hk
    simpa using hd k hk
  rw [keys_insertAll, keys_empty, List.nil_append, List.map_append, List.eraseDups_append, hremove,
    eraseDups_of_nodup hn]

theorem get?_insertAll_behind (hn : (fs.map Prod.fst).Nodup) {id : Id} {v : Value}
    (h : (id, v) ∈ fs) : (empty.insertAll (es ++ fs)).get? id = some v := by
  rw [get?_insertAll, List.reverse_append, lookup_append, lookup_reverse hn, lookup_of_mem hn h]
  rfl

end Behind

/-- Inserting the entries of a map anew gives the map. -/
theorem insertAll_entries (m : Map) : empty.insertAll m.entries = m := by
  refine ext_keys_get? ?_ fun id => ?_
  · rw [keys_insertAll, keys_empty, List.nil_append]
    exact eraseDups_of_nodup m.nodup
  · rw [get?_insertAll, lookup_reverse m.nodup, get?_empty]
    simp [get?]

end Map

end Property
end Infochart
