/-
What writes and batches do to the data behind a key.

* `hash_apply`, `scoredSet_apply`, `mem_members_apply`: one write changes the data of its own key
  and kind and nothing else;
* `hash_foldl`, `scoredSet_foldl`, `mem_members_foldl`: writes elsewhere leave the data of a key
  alone;
* `Keyspace.InStep`: the two indexes of every scored set are in step; kept by every request
  (`InStep.answer`);
* `InStep.popMin_eq_apply`, `InStep.scoredAdd_of_popMin`: popping is a write that adding undoes;
* `taskKey_inj` and others: different data of a layout stand under different keys;
* `commit_eq`: a batch is applied exactly when its guards hold.
-/
import LeaseQueue.Keyspace.Layout
import LeaseQueue.Proofs.ScoredSet

namespace LeaseQueue

/-! ### Where a write goes -/

namespace WriteOp

/-- The key of the hash that a write sets. -/
def hashKey? : WriteOp → Option String
  | hashSet key _ => some key
  | _ => none

/-- The key of the scored set that a write changes. -/
def scoredKey? : WriteOp → Option String
  | scoredAdd key _ _ => some key
  | scoredRemove key _ => some key
  | _ => none

/-- The key of the set that a write changes. -/
def setKey? : WriteOp → Option String
  | setAdd key _ => some key
  | setRemove key _ => some key
  | _ => none

end WriteOp

namespace Keyspace

/-! ### One write -/

/-- A write to a hash sets its fields; no other write touches a hash. -/
lemma hash_apply (ks : Keyspace) (op : WriteOp) (key : String) :
    (ks.apply op).hash key = match op with
      | .hashSet key' fields =>
        if key = key' then (ks.hash key).insertAll fields else ks.hash key
      | _ => ks.hash key := by
  cases op with
  | hashSet key' fields =>
      change ((ks.hashes.insert key' _).getD key .empty) = if key = key' then _ else _
      rw [SortedMap.getD_insert]
      split_ifs with h
      · rw [h]
      · rfl
  | scoredAdd => rfl
  | scoredRemove =>
      simp only [apply]
      split <;> rfl
  | setAdd => rfl
  | setRemove =>
      simp only [apply]
      split <;> rfl

/-- A write to a scored set scores a member or takes one out; no other write touches one. -/
lemma scoredSet_apply (ks : Keyspace) (op : WriteOp) (key : String) :
    (ks.apply op).scoredSet key = match op with
      | .scoredAdd key' member score =>
        if key = key' then (ks.scoredSet key).add member score else ks.scoredSet key
      | .scoredRemove key' member =>
        if key = key' then (ks.scoredSet key).remove member else ks.scoredSet key
      | _ => ks.scoredSet key := by
  cases op with
  | hashSet => rfl
  | scoredAdd key' member score =>
      change ((ks.scored.insert key' _).getD key .empty) = if key = key' then _ else _
      rw [SortedMap.getD_insert]
      split_ifs with h
      · rw [h]
      · rfl
  | scoredRemove key' member =>
      simp only [apply]
      split
      · rename_i s hs
        change ((ks.scored.insert key' _).getD key .empty) = _
        rw [SortedMap.getD_insert]
        split_ifs with h
        · rw [h, scoredSet, SortedMap.getD_eq, hs, Option.getD_some]
        · rfl
      · rename_i hnone
        split_ifs with h
        · rw [h, scoredSet, SortedMap.getD_eq, hnone]
          rfl
        · rfl
  | setAdd => rfl
  | setRemove =>
      simp only [apply]
      split <;> rfl

lemma mem_members_iff (ks : Keyspace) (key m : String) :
    m ∈ ks.members key ↔ ((ks.sets.getD key .empty).get? m).isSome := SortedMap.mem_keys_iff

/-- A write to a set puts a member in or takes one out; no other write touches one. -/
lemma mem_members_apply (ks : Keyspace) (op : WriteOp) (key m : String) :
    m ∈ (ks.apply op).members key ↔ match op with
      | .setAdd key' member => (key = key' ∧ m = member) ∨ m ∈ ks.members key
      | .setRemove key' member => m ∈ ks.members key ∧ ¬ (key = key' ∧ m = member)
      | _ => m ∈ ks.members key := by
  cases op with
  | hashSet => exact Iff.rfl
  | scoredAdd => exact Iff.rfl
  | scoredRemove =>
      simp only [apply]
      split <;> exact Iff.rfl
  | setAdd key' member =>
      rw [mem_members_iff, mem_members_iff]
      change ((SortedMap.getD (ks.sets.insert key' _) key .empty).get? m).isSome ↔ _
      rw [SortedMap.getD_insert]
      by_cases h : key = key'
      · subst h
        rw [if_pos rfl, SortedMap.get?_insert]
        by_cases hm : m = member <;> simp [hm]
      · rw [if_neg h]
        simp [h]
  | setRemove key' member =>
      simp only [apply]
      split
      · rename_i s hs
        rw [mem_members_iff, mem_members_iff]
        change ((SortedMap.getD (ks.sets.insert key' _) key .empty).get? m).isSome ↔ _
        rw [SortedMap.getD_insert]
        by_cases h : key = key'
        · subst h
          rw [if_pos rfl, SortedMap.get?_erase, SortedMap.getD_eq, hs]
          by_cases hm : m = member <;> simp [hm]
        · rw [if_neg h]
          simp [h]
      · rename_i hnone
        refine ⟨fun hm => ⟨hm, fun h => ?_⟩, fun h => h.1⟩
        rw [mem_members_iff, h.1, SortedMap.getD_eq, hnone] at hm
        simp at hm

lemma scoredSet_empty (key : String) : empty.scoredSet key = .empty := rfl

lemma members_empty (key : String) : empty.members key = [] := rfl

/-! ### Popping -/

lemma hash_popMin (ks : Keyspace) (key key' : String) :
    (ks.popMin key).2.hash key' = ks.hash key' := by
  unfold popMin
  split <;> rfl

lemma members_popMin (ks : Keyspace) (key key' : String) :
    (ks.popMin key).2.members key' = ks.members key' := by
  unfold popMin
  split <;> rfl

/-- Popping leaves all scored sets but its own alone. -/
lemma scoredSet_popMin_of_ne (ks : Keyspace) {key key' : String} (h : key' ≠ key) :
    (ks.popMin key).2.scoredSet key' = ks.scoredSet key' := by
  unfold popMin
  split
  · change ((ks.scored.insert key _).getD key' .empty) = _
    rw [SortedMap.getD_insert, if_neg h]
    rfl
  · rfl

/-- Popping pops the scored set of its key. -/
lemma popMin_cases (ks : Keyspace) (key : String) :
    ((ks.scoredSet key).popMin = none ∧ ks.popMin key = (none, ks)) ∨
      ∃ entry rest, (ks.scoredSet key).popMin = some (entry, rest) ∧
        (ks.popMin key).1 = some entry ∧ (ks.popMin key).2.scoredSet key = rest := by
  cases h : (ks.scoredSet key).popMin with
  | none => exact Or.inl ⟨rfl, by rw [popMin, h]⟩
  | some p =>
      obtain ⟨entry, rest⟩ := p
      refine Or.inr ⟨entry, rest, rfl, by rw [popMin, h], ?_⟩
      rw [popMin, h]
      change ((ks.scored.insert key rest).getD key .empty) = _
      rw [SortedMap.getD_insert, if_pos rfl]

/-! ### Batches -/

/-- A batch is applied exactly when its guards hold. -/
lemma commit_eq (ks : Keyspace) (b : Batch) :
    ks.commit b = if b.guards.all ks.holds then (true, b.ops.foldl apply ks) else (false, ks) :=
  rfl

/-- A batch whose guards hold is applied. -/
lemma answer_commit (ks : Keyspace) {b : Batch} (h : b.guards.all ks.holds = true) :
    ks.answer (.commit b) = (.committed true, b.ops.foldl apply ks) := by
  rw [answer, commit_eq, if_pos h]

lemma commit_ofOps (ks : Keyspace) (ops : List WriteOp) :
    ks.commit (.ofOps ops) = (true, ops.foldl apply ks) := rfl

lemma holds_iff (ks : Keyspace) (g : FieldGuard) :
    ks.holds g = true ↔ (ks.hash g.key).get? g.field = some g.expected := by
  rw [holds, beq_iff_eq]

/-! ### Writes elsewhere -/

/-- Writes to other hashes leave a hash alone. -/
lemma hash_foldl (ks : Keyspace) {ops : List WriteOp} {key : String}
    (h : ∀ op ∈ ops, op.hashKey? ≠ some key) : (ops.foldl apply ks).hash key = ks.hash key := by
  induction ops generalizing ks with
  | nil => rfl
  | cons op ops ih =>
      rw [List.foldl_cons, ih _ fun op' hop' => h op' (List.mem_cons_of_mem _ hop'), hash_apply]
      have hop := h op (by simp)
      cases op with
      | hashSet key' fields => exact if_neg fun heq => hop (by rw [WriteOp.hashKey?, heq])
      | _ => rfl

/-- Writes to other scored sets leave a scored set alone. -/
lemma scoredSet_foldl (ks : Keyspace) {ops : List WriteOp} {key : String}
    (h : ∀ op ∈ ops, op.scoredKey? ≠ some key) :
    (ops.foldl apply ks).scoredSet key = ks.scoredSet key := by
  induction ops generalizing ks with
  | nil => rfl
  | cons op ops ih =>
      rw [List.foldl_cons, ih _ fun op' hop' => h op' (List.mem_cons_of_mem _ hop'),
        scoredSet_apply]
      have hop := h op (by simp)
      cases op with
      | scoredAdd key' m x => exact if_neg fun heq => hop (by rw [WriteOp.scoredKey?, heq])
      | scoredRemove key' m => exact if_neg fun heq => hop (by rw [WriteOp.scoredKey?, heq])
      | _ => rfl

/-- Writes to other sets leave a set alone. -/
lemma mem_members_foldl (ks : Keyspace) {ops : List WriteOp} {key : String}
    (h : ∀ op ∈ ops, op.setKey? ≠ some key) (m : String) :
    m ∈ (ops.foldl apply ks).members key ↔ m ∈ ks.members key := by
  induction ops generalizing ks with
  | nil => rfl
  | cons op ops ih =>
      rw [List.foldl_cons, ih _ fun op' hop' => h op' (List.mem_cons_of_mem _ hop'),
        mem_members_apply]
      have hop := h op (by simp)
      cases op with
      | setAdd key' m' =>
          have hne : key ≠ key' := fun heq => hop (by rw [WriteOp.setKey?, heq])
          simp [hne]
      | setRemove key' m' =>
          have hne : key ≠ key' := fun heq => hop (by rw [WriteOp.setKey?, heq])
          simp [hne]
      | _ => rfl

/-! ### Indexes in step -/

/-- The two indexes of every scored set are in step. -/
def InStep (ks : Keyspace) : Prop := ∀ key, (ks.scoredSet key).InStep

lemma inStep_empty : empty.InStep := fun _ => ScoredSet.inStep_empty

lemma InStep.apply {ks : Keyspace} (h : ks.InStep) (op : WriteOp) : (ks.apply op).InStep := by
  intro key
  rw [scoredSet_apply]
  cases op with
  | hashSet => exact h key
  | scoredAdd key' m x =>
      dsimp only
      split_ifs
      · exact (h key).add m x
      · exact h key
  | scoredRemove key' m =>
      dsimp only
      split_ifs
      · exact (h key).remove m
      · exact h key
  | setAdd => exact h key
  | setRemove => exact h key

lemma InStep.foldl {ks : Keyspace} (h : ks.InStep) (ops : List WriteOp) :
    (ops.foldl Keyspace.apply ks).InStep := by
  induction ops generalizing ks with
  | nil => exact h
  | cons op ops ih => exact ih (h.apply op)

lemma InStep.commit {ks : Keyspace} (h : ks.InStep) (b : Batch) : (ks.commit b).2.InStep := by
  rw [commit_eq]
  split_ifs
  · exact h.foldl b.ops
  · exact h

lemma InStep.popMin {ks : Keyspace} (h : ks.InStep) (key : String) : (ks.popMin key).2.InStep := by
  intro key'
  by_cases hkey : key' = key
  · subst hkey
    rcases ks.popMin_cases key' with ⟨-, heq⟩ | ⟨⟨m, x⟩, rest, hpop, -, heq⟩
    · rw [heq]
      exact h key'
    · rw [heq]
      exact (h key').popMin hpop
  · rw [scoredSet_popMin_of_ne ks hkey]
    exact h key'

section PopMin

variable {ks : Keyspace} {key m : String} {x : Int64} {rest : ScoredSet}

/-- Popping takes out the member that it pops. -/
lemma InStep.popMin_eq_apply (h : ks.InStep)
    (hpop : (ks.scoredSet key).popMin = some ((m, x), rest)) :
    ks.popMin key = (some (m, x), ks.apply (.scoredRemove key m)) := by
  have hrest := (h key).eq_remove_of_popMin hpop
  rw [Keyspace.popMin, hpop, hrest, Keyspace.apply]
  cases hget : ks.scored.get? key with
  | some s =>
      have hs : ks.scoredSet key = s := by rw [scoredSet, SortedMap.getD_eq, hget, Option.getD_some]
      simp only [hs]
  | none =>
      have hs : ks.scoredSet key = .empty := by
        rw [scoredSet, SortedMap.getD_eq, hget, Option.getD_none]
      rw [hs] at hpop
      cases hpop

/-- Adding a popped member again with its score gives the data as they were. -/
lemma InStep.scoredAdd_of_popMin (h : ks.InStep)
    (hpop : (ks.scoredSet key).popMin = some ((m, x), rest)) :
    (ks.popMin key).2.apply (.scoredAdd key m x) = ks := by
  have hset : (ks.popMin key).2.scoredSet key = rest := by
    rcases ks.popMin_cases key with ⟨hnone, -⟩ | ⟨_, _, hsome, -, hrest⟩
    · rw [hnone] at hpop
      simp at hpop
    · rw [hsome, Option.some_inj, Prod.mk.injEq] at hpop
      rw [hrest, hpop.2]
  have hscored : ((ks.popMin key).2.scored).insert key (rest.add m x) = ks.scored := by
    refine SortedMap.ext_get? fun k => ?_
    rw [SortedMap.get?_insert, (h key).add_of_popMin hpop, Keyspace.popMin, hpop]
    split_ifs with hk
    · subst hk
      cases hget : ks.scored.get? k with
      | some s => rw [scoredSet, SortedMap.getD_eq, hget, Option.getD_some]
      | none =>
          rw [scoredSet, SortedMap.getD_eq, hget, Option.getD_none] at hpop
          cases hpop
    · exact (SortedMap.get?_insert _ _ _ _).trans (if_neg hk)
  rw [Keyspace.apply, hset, hscored, Keyspace.popMin, hpop]

end PopMin

/-- Every request keeps the indexes in step. -/
lemma InStep.answer {ks : Keyspace} (h : ks.InStep) (q : Request) : (ks.answer q).2.InStep := by
  cases q with
  | readHash => exact h
  | popMin key => exact h.popMin key
  | below => exact h
  | members => exact h
  | commit b => exact h.commit b

end Keyspace

/-! ### Keys of a layout -/

namespace Layout

variable (l : Layout)

lemma taskKey_eq (id : String) : l.taskKey id = l.keyspaceName ++ ":task:" ++ id := rfl

lemma statusKey_eq (s : Status) : l.statusKey s = l.keyspaceName ++ ":status:" ++ s.lowerName := rfl

/-- Different tasks have different hashes. -/
lemma taskKey_inj {id id' : String} : l.taskKey id = l.taskKey id' ↔ id = id' := by
  rw [taskKey_eq, taskKey_eq, String.append_right_inj]

lemma pendingKey_ne_inProgressKey : l.pendingKey ≠ l.inProgressKey := by
  intro h
  have htail : ":pending" = ":in_progress" := (String.append_right_inj l.keyspaceName).mp h
  exact absurd htail (by decide)

lemma statusKey_inj {s s' : Status} : l.statusKey s = l.statusKey s' ↔ s = s' := by
  refine ⟨fun h => ?_, fun h => h ▸ rfl⟩
  rw [statusKey_eq, statusKey_eq, String.append_right_inj] at h
  cases s <;> cases s' <;> first | rfl | exact absurd h (by decide)

lemma allKey_ne_statusKey (s : Status) : l.allKey ≠ l.statusKey s := by
  intro h
  rw [statusKey_eq, String.append_assoc] at h
  have htail : ":all" = ":status:" ++ s.lowerName := (String.append_right_inj l.keyspaceName).mp h
  cases s <;> exact absurd htail (by decide)

end Layout

end LeaseQueue
