/-
Maps from texts to values, kept as association lists with strictly increasing keys.

* `SortedMap`: the list of entries together with the proof that its keys increase, so two maps
  with the same bindings are equal (`SortedMap.ext_get?`);
* `SortedMap.get?`, `insert`, `erase`: look-up, binding and removal, with one look-up law each
  (`get?_insert`, `get?_erase`);
* `SortedMap.ofList`: the map of a list of pairs, in which the last pair of a key wins.

Keys are ordered by code point, which is also the byte order of their UTF-8 form.
-/

namespace LeaseQueue

/-- A finite map from texts to values of type `α`, in increasing order of its keys. -/
structure SortedMap (α : Type) where
  /-- The bindings, one per key. -/
  entries : List (String × α)
  /-- Keys increase strictly along the list. -/
  increasing : entries.Pairwise (fun a b => a.1 < b.1) := by simp
deriving DecidableEq, Repr

namespace SortedMap

variable {α β : Type}

/-! ### Association lists -/

/-- The value bound to `k` in an association list. -/
def lookup (k : String) : List (String × α) → Option α
  | [] => none
  | (k', v) :: rest => if k = k' then some v else lookup k rest

/-- Bind `k` to `v` at its place in increasing order, replacing an older binding. -/
def place (k : String) (v : α) : List (String × α) → List (String × α)
  | [] => [(k, v)]
  | (k', v') :: rest =>
    if k < k' then (k, v) :: (k', v') :: rest
    else if k = k' then (k, v) :: rest
    else (k', v') :: place k v rest

/-- Drop every binding of `k`. -/
def drop (k : String) (l : List (String × α)) : List (String × α) :=
  l.filter fun e => e.1 ≠ k

theorem mem_place {k : String} {v : α} {l : List (String × α)} {e : String × α}
    (h : e ∈ place k v l) : e = (k, v) ∨ e ∈ l := by
  induction l with
  | nil => simpa [place] using h
  | cons a rest ih => grind [place]

theorem pairwise_place (k : String) (v : α) {l : List (String × α)}
    (h : l.Pairwise (fun a b => a.1 < b.1)) :
    (place k v l).Pairwise (fun a b => a.1 < b.1) := by
  induction l with
  | nil => simp [place]
  | cons a rest ih =>
    obtain ⟨ha, hr⟩ := List.pairwise_cons.1 h
    unfold place
    split
    · rename_i hk
      refine List.pairwise_cons.2 ⟨fun b hb => ?_, h⟩
      rcases List.mem_cons.1 hb with rfl | hb
      · exact hk
      · exact String.lt_trans hk (ha b hb)
    · split
      · rename_i hk
        exact List.pairwise_cons.2 ⟨fun b hb => hk ▸ ha b hb, hr⟩
      · refine List.pairwise_cons.2 ⟨fun b hb => ?_, ih hr⟩
        rcases mem_place hb with rfl | hb
        · grind
        · exact ha b hb

theorem lookup_place (k k' : String) (v : α) (l : List (String × α)) :
    lookup k' (place k v l) = if k' = k then some v else lookup k' l := by
  induction l with
  | nil => simp [place, lookup]
  | cons a rest ih => grind [place, lookup]

theorem lookup_drop (k k' : String) (l : List (String × α)) :
    lookup k' (drop k l) = if k' = k then none else lookup k' l := by
  induction l with
  | nil => simp [drop, lookup]
  | cons a rest ih => grind [drop, lookup]

theorem lookup_eq_none_of_lt {k : String} {l : List (String × α)}
    (h : ∀ e ∈ l, k < e.1) : lookup k l = none := by
  induction l with
  | nil => rfl
  | cons a rest ih => grind [lookup, String.lt_irrefl]

/-! ### The map -/

/-- The map that binds nothing. -/
def empty : SortedMap α := ⟨[], .nil⟩

instance : EmptyCollection (SortedMap α) := ⟨empty⟩

instance : Inhabited (SortedMap α) := ⟨empty⟩

/-- The value bound to `k`. -/
def get? (m : SortedMap α) (k : String) : Option α := lookup k m.entries

/-- The value bound to `k`, or `d`. -/
def getD (m : SortedMap α) (k : String) (d : α) : α := (m.get? k).getD d

/-- Whether `k` is bound. -/
def contains (m : SortedMap α) (k : String) : Bool := (m.get? k).isSome

/-- Whether nothing is bound. -/
def isEmpty (m : SortedMap α) : Bool := m.entries.isEmpty

/-- The number of bindings. -/
def size (m : SortedMap α) : Nat := m.entries.length

/-- The bound keys, in increasing order. -/
def keys (m : SortedMap α) : List String := m.entries.map (·.1)

/-- Bind `k` to `v`. -/
def insert (m : SortedMap α) (k : String) (v : α) : SortedMap α :=
  ⟨place k v m.entries, pairwise_place k v m.increasing⟩

/-- Bind `k` to `v` unless `k` is bound already. -/
def insertNew (m : SortedMap α) (k : String) (v : α) : SortedMap α :=
  if m.contains k then m else m.insert k v

/-- Unbind `k`. -/
def erase (m : SortedMap α) (k : String) : SortedMap α :=
  ⟨drop k m.entries, m.increasing.sublist List.filter_sublist⟩

/-- Insert the pairs one after the other. -/
def insertAll (m : SortedMap α) (pairs : List (String × α)) : SortedMap α :=
  pairs.foldl (fun m e => m.insert e.1 e.2) m

/-- The map of a list of pairs; of several pairs with one key the last counts. -/
def ofList (pairs : List (String × α)) : SortedMap α :=
  pairs.foldr (fun e m => m.insertNew e.1 e.2) empty

/-- Apply a function to every bound value. -/
def map (f : α → β) (m : SortedMap α) : SortedMap β :=
  ⟨m.entries.map fun e => (e.1, f e.2), by
    simpa [List.pairwise_map] using m.increasing⟩

/-! ### Look-up laws -/

@[simp] theorem get?_empty (k : String) : (empty : SortedMap α).get? k = none := rfl

theorem get?_insert (m : SortedMap α) (k k' : String) (v : α) :
    (m.insert k v).get? k' = if k' = k then some v else m.get? k' :=
  lookup_place k k' v m.entries

theorem get?_erase (m : SortedMap α) (k k' : String) :
    (m.erase k).get? k' = if k' = k then none else m.get? k' :=
  lookup_drop k k' m.entries

theorem get?_insertNew (m : SortedMap α) (k k' : String) (v : α) :
    (m.insertNew k v).get? k' = if k' = k then some ((m.get? k).getD v) else m.get? k' := by
  unfold insertNew contains
  cases h : m.get? k <;> grind [get?_insert]

private theorem entries_ext_of_lookup : ∀ {l l' : List (String × α)},
    l.Pairwise (fun a b => a.1 < b.1) → l'.Pairwise (fun a b => a.1 < b.1) →
    (∀ k, lookup k l = lookup k l') → l = l'
  | [], [], _, _, _ => rfl
  | [], (k, v) :: r, _, _, h => by simpa [lookup] using h k
  | (k, v) :: r, [], _, _, h => by simpa [lookup] using h k
  | (k, v) :: r, (k', v') :: r', hl, hl', h => by
    obtain ⟨ha, hr⟩ := List.pairwise_cons.1 hl
    obtain ⟨ha', hr'⟩ := List.pairwise_cons.1 hl'
    have hk : k = k' := by
      have h1 := h k
      have h2 := h k'
      by_cases hlt : k < k'
      · have := lookup_eq_none_of_lt (l := r') fun e he => String.lt_trans hlt (ha' e he)
        grind [lookup]
      · by_cases heq : k = k'
        · exact heq
        · have hgt : k' < k := by grind
          have := lookup_eq_none_of_lt (l := r) fun e he => String.lt_trans hgt (ha e he)
          grind [lookup]
    subst hk
    have hv : v = v' := by simpa [lookup] using h k
    subst hv
    refine congrArg _ (entries_ext_of_lookup hr hr' fun q => ?_)
    by_cases hq : q = k
    · subst hq
      rw [lookup_eq_none_of_lt ha, lookup_eq_none_of_lt ha']
    · simpa [lookup, hq] using h q

/-- Extensionality: maps with the same bindings are equal. -/
theorem ext_get? {m m' : SortedMap α} (h : ∀ k, m.get? k = m'.get? k) : m = m' := by
  obtain ⟨l, hl⟩ := m
  obtain ⟨l', hl'⟩ := m'
  have : l = l' := entries_ext_of_lookup hl hl' h
  subst this
  rfl

end SortedMap

end LeaseQueue
