/-
Maps and their lists of entries.

* `mem_entries_iff`, `mem_keys_iff`: the entries are the bindings and the keys are what is bound;
* `ofList_entries`: a map is the map of its own entries;
* `get?_insertAll`: after many insertions a key is bound by the last of them that mentions it;
* `values`, `mem_values_iff`: the bound values.
-/
import LeaseQueue.SortedMap
import Mathlib.Tactic

namespace LeaseQueue.SortedMap

variable {α : Type}

/-! ### Entries and look-up -/

lemma lookup_eq_some_iff {k : String} {v : α} {l : List (String × α)}
    (h : l.Pairwise (fun a b => a.1 < b.1)) : lookup k l = some v ↔ (k, v) ∈ l := by
  induction l with
  | nil => simp [lookup]
  | cons a rest ih =>
      obtain ⟨ha, hr⟩ := List.pairwise_cons.mp h
      obtain ⟨k', v'⟩ := a
      rw [lookup, List.mem_cons]
      by_cases hk : k = k'
      · subst hk
        have hnot : (k, v) ∉ rest := fun hm => String.lt_irrefl k (ha (k, v) hm)
        simp [hnot, eq_comm]
      · simp [hk, ih hr]

/-- The entries of a map are its bindings. -/
lemma mem_entries_iff {m : SortedMap α} {k : String} {v : α} :
    (k, v) ∈ m.entries ↔ m.get? k = some v :=
  (lookup_eq_some_iff m.increasing).symm

/-- The keys of a map are what it binds. -/
lemma mem_keys_iff {m : SortedMap α} {k : String} : k ∈ m.keys ↔ (m.get? k).isSome := by
  rw [keys, List.mem_map, Option.isSome_iff_exists]
  constructor
  · rintro ⟨⟨k', v⟩, hm, rfl⟩
    exact ⟨v, mem_entries_iff.mp hm⟩
  · rintro ⟨v, hv⟩
    exact ⟨(k, v), mem_entries_iff.mpr hv, rfl⟩

lemma nodup_keys (m : SortedMap α) : m.keys.Nodup := by
  rw [keys, List.Nodup, List.pairwise_map]
  refine m.increasing.imp fun {a b} h => ?_
  rintro heq
  exact String.lt_irrefl a.1 (heq ▸ h)

lemma isEmpty_iff {m : SortedMap α} : m.isEmpty = true ↔ m = empty := by
  constructor
  · intro h
    refine ext_get? fun k => ?_
    rw [isEmpty, List.isEmpty_iff] at h
    rw [get?, h, get?_empty, lookup]
  · rintro rfl
    rfl

lemma getD_eq (m : SortedMap α) (k : String) (d : α) : m.getD k d = (m.get? k).getD d := rfl

lemma getD_insert (m : SortedMap α) (k k' : String) (v d : α) :
    (m.insert k v).getD k' d = if k' = k then v else m.getD k' d := by
  rw [getD_eq, get?_insert]
  split_ifs <;> rfl

/-! ### Many insertions -/

@[simp] lemma insertAll_nil (m : SortedMap α) : m.insertAll [] = m := rfl

/-- After many insertions a key is bound by the last pair that mentions it. -/
lemma get?_insertAll (m : SortedMap α) (l : List (String × α)) (k : String) :
    (m.insertAll l).get? k = (lookup k l.reverse).or (m.get? k) := by
  induction l using List.reverseRecOn generalizing m with
  | nil => simp [lookup]
  | append_singleton l e ih =>
      have hlast : (m.insertAll (l ++ [e])) = (m.insertAll l).insert e.1 e.2 := by
        simp [insertAll, List.foldl_append]
      rw [hlast, get?_insert, List.reverse_append, List.reverse_singleton, List.singleton_append,
        lookup, ih]
      split_ifs <;> rfl

/-! ### The map of a list -/

lemma mem_of_lookup_eq_some {k : String} {v : α} {l : List (String × α)}
    (h : lookup k l = some v) : (k, v) ∈ l := by
  induction l with
  | nil => simp [lookup] at h
  | cons e l ih =>
      rw [lookup] at h
      split_ifs at h with hk
      · obtain rfl := Option.some.inj h
        exact hk ▸ List.mem_cons_self
      · exact List.mem_cons_of_mem e (ih h)

lemma lookup_eq_none_of_notMem {k : String} {l : List (String × α)} (h : k ∉ l.map (·.1)) :
    lookup k l = none := by
  induction l with
  | nil => rfl
  | cons a rest ih =>
      rw [List.map_cons, List.mem_cons, not_or] at h
      rw [lookup, if_neg h.1, ih h.2]

lemma get?_ofList {l : List (String × α)} (h : (l.map (·.1)).Nodup) (k : String) :
    (ofList l).get? k = lookup k l := by
  induction l generalizing k with
  | nil => rfl
  | cons e l ih =>
      rw [List.map_cons, List.nodup_cons] at h
      have hstep : ofList (e :: l) = (ofList l).insertNew e.1 e.2 := rfl
      rw [hstep, get?_insertNew, lookup, ih h.2, ih h.2]
      split_ifs
      · rw [lookup_eq_none_of_notMem h.1, Option.getD_none]
      · rfl

/-- A map is the map of its own entries. -/
lemma ofList_entries (m : SortedMap α) : ofList m.entries = m :=
  ext_get? fun k => get?_ofList m.nodup_keys k

/-! ### Values -/

/-- The bound values, in increasing order of their keys. -/
def values (m : SortedMap α) : List α := m.entries.map (·.2)

lemma lookup_map {β : Type} (f : α → β) (k : String) (l : List (String × α)) :
    lookup k (l.map fun e => (e.1, f e.2)) = (lookup k l).map f := by
  induction l with
  | nil => rfl
  | cons e l ih =>
      rw [List.map_cons, lookup, ih, lookup]
      split_ifs <;> rfl

lemma get?_map {β : Type} (f : α → β) (m : SortedMap α) (k : String) :
    (m.map f).get? k = (m.get? k).map f :=
  lookup_map f k m.entries

lemma mem_values_iff {m : SortedMap α} {v : α} : v ∈ m.values ↔ ∃ k, m.get? k = some v := by
  rw [values, List.mem_map]
  constructor
  · rintro ⟨⟨k, v'⟩, hm, rfl⟩
    exact ⟨k, mem_entries_iff.mp hm⟩
  · rintro ⟨k, hk⟩
    exact ⟨(k, v), mem_entries_iff.mpr hk, rfl⟩

end LeaseQueue.SortedMap
