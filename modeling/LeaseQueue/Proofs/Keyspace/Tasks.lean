/-
The tasks that a keyspace stores, and what the batches of a layout do to them.

* `Keyspace.task?`: the task stored under an id;
* `Keyspace.Sound`: every hash of a task is as the layout writes it, under the task's own id;
* `Sound.put`: a hash written anew stores the written task and leaves the others alone;
* `Sound.write`: writing the fields that change over a stored task stores the changed task;
* `Sound.guards_iff`: guards hold exactly while status and update time are as they were read;
* `hash_transitionOps`, `pending_transitionOps`, `inProgress_transitionOps`,
  `mem_status_transitionOps`, `mem_all_transitionOps`: what a transition writes.
-/
import LeaseQueue.Keyspace.Stage
import LeaseQueue.Proofs.Keyspace.View
import LeaseQueue.Proofs.Record.Hash

namespace LeaseQueue

/-- The hash that stores a task, without fields for none. -/
def Layout.recordOf : Option Task → SortedMap String
  | none => .empty
  | some t => record t

/-- The score of a task among the leases, none for a task without a lease. -/
def Task.leaseScore? (t : Task) : Option Int64 :=
  if t.status = .inProgress then some t.updatedAt else none

namespace Keyspace

variable {l : Layout} {ks ks' : Keyspace}

/-! ### Stored tasks -/

/-- The task stored under an id, none when there is none that can be read. -/
def task? (ks : Keyspace) (l : Layout) (id : String) : Option Task :=
  match Layout.decode? (l.taskKey id) (ks.hash (l.taskKey id)) with
  | .ok t => t
  | .error _ => none

lemma task?_of_hash_eq_record {id : String} {t : Task}
    (h : ks.hash (l.taskKey id) = Layout.record t) : ks.task? l id = some t.kept := by
  rw [task?, h, Layout.decode?_record]

lemma task?_of_hash_eq_empty {id : String} (h : ks.hash (l.taskKey id) = .empty) :
    ks.task? l id = none := by
  rw [task?, h, Layout.decode?_empty]

lemma task?_congr {id : String} (h : ks'.hash (l.taskKey id) = ks.hash (l.taskKey id)) :
    ks'.task? l id = ks.task? l id := by
  rw [task?, h, task?]

/-- Every hash of a task is as the layout writes it, under the task's own id. -/
structure Sound (l : Layout) (ks : Keyspace) : Prop where
  hash_eq : ∀ id, ks.hash (l.taskKey id) = Layout.recordOf (ks.task? l id)
  id_eq : ∀ {id t}, ks.task? l id = some t → t.id = id

lemma task?_empty (l : Layout) (id : String) : empty.task? l id = none :=
  task?_of_hash_eq_empty rfl

lemma sound_empty (l : Layout) : Sound l empty where
  hash_eq _ := rfl
  id_eq h := by simp [task?_empty] at h

namespace Sound

lemma hash_of_some (h : Sound l ks) {id : String} {t : Task} (ht : ks.task? l id = some t) :
    ks.hash (l.taskKey id) = Layout.record t := by
  rw [h.hash_eq, ht, Layout.recordOf]

lemma hash_of_none (h : Sound l ks) {id : String} (ht : ks.task? l id = none) :
    ks.hash (l.taskKey id) = .empty := by
  rw [h.hash_eq, ht, Layout.recordOf]

/-- A stored task has no empty text in place of none. -/
lemma clean (h : Sound l ks) {id : String} {t : Task} (ht : ks.task? l id = some t) :
    t.Clean := by
  have hkept := task?_of_hash_eq_record (h.hash_of_some ht)
  rw [ht, Option.some_inj] at hkept
  rw [hkept]
  exact t.clean_kept

/-- Reading a hash gives the stored task. -/
lemma loaded_readHash (h : Sound l ks) (id : String) :
    Stage.loaded (l.taskKey id) (.ok (.fields (ks.hash (l.taskKey id)))) = .ok (ks.task? l id) := by
  change Layout.decode? (l.taskKey id) (ks.hash (l.taskKey id)) = _
  cases ht : ks.task? l id with
  | none => rw [h.hash_of_none ht, Layout.decode?_empty]
  | some t => rw [h.hash_of_some ht, Layout.decode?_record, (h.clean ht).kept_eq]

/-- Unchanged hashes store the same tasks. -/
lemma congr (h : Sound l ks) (heq : ∀ id, ks'.hash (l.taskKey id) = ks.hash (l.taskKey id)) :
    Sound l ks' where
  hash_eq id := by rw [heq, h.hash_eq, task?_congr (heq id)]
  id_eq {id} {t} ht := h.id_eq (by rwa [task?_congr (heq id)] at ht)

/-- A hash written anew stores the written task and leaves the others alone. -/
lemma put (h : Sound l ks) {t : Task}
    (heq : ∀ id, ks'.hash (l.taskKey id)
      = if id = t.id then Layout.record t else ks.hash (l.taskKey id)) :
    Sound l ks' ∧
      ∀ id, ks'.task? l id = if id = t.id then some t.kept else ks.task? l id := by
  have htask : ∀ id, ks'.task? l id = if id = t.id then some t.kept else ks.task? l id := by
    intro id
    split_ifs with hid
    · exact task?_of_hash_eq_record (by rw [heq, if_pos hid])
    · exact task?_congr (by rw [heq, if_neg hid])
  refine ⟨⟨fun id => ?_, fun {id} {t'} ht => ?_⟩, htask⟩
  · rw [htask, heq]
    split_ifs
    · rw [Layout.recordOf, Layout.record_kept]
    · exact h.hash_eq id
  · rw [htask] at ht
    split_ifs at ht with hid
    · obtain rfl := Option.some.inj ht
      exact hid.symm
    · exact h.id_eq ht

/-- Writing the fields that change over a stored task stores the changed task. -/
lemma write (h : Sound l ks) {stored t : Task} (hstored : ks.task? l t.id = some stored)
    (hsame : Task.SameIdentity t stored)
    (heq : ∀ id, ks'.hash (l.taskKey id)
      = if id = t.id then (ks.hash (l.taskKey id)).insertAll (Layout.mutableFields t)
        else ks.hash (l.taskKey id)) :
    Sound l ks' ∧
      ∀ id, ks'.task? l id = if id = t.id then some t.kept else ks.task? l id := by
  refine h.put fun id => ?_
  rw [heq]
  split_ifs with hid
  · rw [hid, h.hash_of_some hstored, Layout.record_insertAll_mutableFields hsame]
  · rfl

/-- Guards hold exactly while status and update time are as they were read. -/
lemma guards_iff (h : Sound l ks) (read : Task) :
    (l.guarded read).guards.all ks.holds = true ↔
      ∃ t, ks.task? l read.id = some t ∧ t.status = read.status ∧
        t.updatedAt = read.updatedAt := by
  simp only [Layout.guarded, List.all_cons, List.all_nil, Bool.and_true, Bool.and_eq_true,
    holds_iff]
  cases ht : ks.task? l read.id with
  | none =>
      rw [h.hash_of_none ht, SortedMap.get?_empty]
      simp
  | some t =>
      rw [h.hash_of_some ht, Layout.get?_status_eq_iff, Layout.get?_updatedAt_eq_iff]
      simp

end Sound

end Keyspace

/-! ### Parts of a transition -/

namespace Layout

variable (l : Layout)

/-- The writes that move a task from the set of one status to that of another. -/
def moveOps (before : Status) (t : Task) : List WriteOp :=
  if before = t.status then []
  else [.setRemove (l.statusKey before) t.id, .setAdd (l.statusKey t.status) t.id]

/-- The writes that put a task into the scored set of its status, if it has one, and take it out of
the others. -/
def queueOps (t : Task) : List WriteOp :=
  match t.status with
  | .pending => [.scoredRemove l.inProgressKey t.id, .scoredAdd l.pendingKey t.id t.createdAt]
  | .inProgress => [.scoredRemove l.pendingKey t.id, .scoredAdd l.inProgressKey t.id t.updatedAt]
  | .completed | .failed => [.scoredRemove l.pendingKey t.id, .scoredRemove l.inProgressKey t.id]

lemma transitionOps_eq (before : Status) (t : Task) :
    l.transitionOps before t
      = .hashSet (l.taskKey t.id) (mutableFields t) :: (l.moveOps before t ++ l.queueOps t) := rfl

lemma hashKey?_moveOps {before : Status} {t : Task} {op : WriteOp} (h : op ∈ l.moveOps before t) :
    op.hashKey? = none ∧ op.scoredKey? = none := by
  unfold moveOps at h
  split_ifs at h
  · simp at h
  · simp only [List.mem_cons, List.not_mem_nil, or_false] at h
    rcases h with rfl | rfl <;> exact ⟨rfl, rfl⟩

lemma hashKey?_queueOps {t : Task} {op : WriteOp} (h : op ∈ l.queueOps t) :
    op.hashKey? = none ∧ op.setKey? = none := by
  unfold queueOps at h
  cases hs : t.status <;> simp only [hs, List.mem_cons, List.not_mem_nil, or_false] at h <;>
    rcases h with rfl | rfl <;> exact ⟨rfl, rfl⟩

end Layout

namespace Keyspace

/-! ### What a transition writes -/

section Transition

variable (l : Layout) (ks : Keyspace) (before : Status) (t : Task)

/-- A transition writes the hash of its task and no other. -/
lemma hash_transitionOps_key (key : String) :
    ((l.transitionOps before t).foldl apply ks).hash key
      = if key = l.taskKey t.id then (ks.hash key).insertAll (Layout.mutableFields t)
        else ks.hash key := by
  have hmove : ∀ op ∈ l.moveOps before t, op.hashKey? ≠ some key :=
    fun op hop => by simp [(l.hashKey?_moveOps hop).1]
  have hqueue : ∀ op ∈ l.queueOps t, op.hashKey? ≠ some key :=
    fun op hop => by simp [(l.hashKey?_queueOps hop).1]
  rw [l.transitionOps_eq, List.foldl_cons, List.foldl_append, hash_foldl _ hqueue,
    hash_foldl _ hmove, hash_apply]

/-- A transition leaves the hashes of other tasks alone. -/
lemma hash_transitionOps (id : String) :
    ((l.transitionOps before t).foldl apply ks).hash (l.taskKey id)
      = if id = t.id then (ks.hash (l.taskKey id)).insertAll (Layout.mutableFields t)
        else ks.hash (l.taskKey id) := by
  simp only [hash_transitionOps_key, Layout.taskKey_inj]

/-- Only the last two writes of a transition touch scored sets. -/
lemma scoredSet_transitionOps (key : String) :
    ((l.transitionOps before t).foldl apply ks).scoredSet key
      = ((l.queueOps t).foldl apply ks).scoredSet key := by
  have hmove : ∀ op ∈ l.moveOps before t, op.scoredKey? ≠ some key :=
    fun op hop => by simp [(l.hashKey?_moveOps hop).2]
  have hframe : ∀ ks' : Keyspace, ks'.scoredSet key = ks.scoredSet key →
      ((l.queueOps t).foldl apply ks').scoredSet key
        = ((l.queueOps t).foldl apply ks).scoredSet key := by
    intro ks' hks
    unfold Layout.queueOps
    cases t.status <;> simp only [List.foldl_cons, List.foldl_nil, scoredSet_apply, hks]
  rw [l.transitionOps_eq, List.foldl_cons, List.foldl_append]
  refine hframe _ ?_
  rw [scoredSet_foldl _ hmove, scoredSet_apply]

/-- A transition queues a waiting task and takes any other out of the queue. -/
lemma pending_transitionOps :
    ((l.transitionOps before t).foldl apply ks).scoredSet l.pendingKey
      = if t.status = .pending then (ks.scoredSet l.pendingKey).add t.id t.createdAt
        else (ks.scoredSet l.pendingKey).remove t.id := by
  have hne := l.pendingKey_ne_inProgressKey
  rw [scoredSet_transitionOps]
  unfold Layout.queueOps
  cases t.status <;> simp [scoredSet_apply, hne]

/-- A transition indexes a leased task by its update time and takes any other out of the leases. -/
lemma inProgress_transitionOps :
    ((l.transitionOps before t).foldl apply ks).scoredSet l.inProgressKey
      = if t.status = .inProgress then (ks.scoredSet l.inProgressKey).add t.id t.updatedAt
        else (ks.scoredSet l.inProgressKey).remove t.id := by
  have hne := l.pendingKey_ne_inProgressKey.symm
  rw [scoredSet_transitionOps]
  unfold Layout.queueOps
  cases t.status <;> simp [scoredSet_apply, hne]

/-- A transition touches only the sets of the statuses it leads from and to. -/
lemma mem_members_transitionOps (key m : String) :
    m ∈ ((l.transitionOps before t).foldl apply ks).members key ↔
      m ∈ ((l.moveOps before t).foldl apply ks).members key := by
  have hqueue : ∀ op ∈ l.queueOps t, op.setKey? ≠ some key :=
    fun op hop => by simp [(l.hashKey?_queueOps hop).2]
  rw [l.transitionOps_eq, List.foldl_cons, List.foldl_append, mem_members_foldl _ hqueue]
  unfold Layout.moveOps
  split_ifs
  · exact mem_members_apply ks _ key m
  · simp only [List.foldl_cons, List.foldl_nil, mem_members_apply]

/-- A transition moves its task to the set of its new status. -/
lemma mem_status_transitionOps (s : Status) (m : String) :
    m ∈ ((l.transitionOps before t).foldl apply ks).members (l.statusKey s) ↔
      if before = t.status then m ∈ ks.members (l.statusKey s)
      else (s = t.status ∧ m = t.id) ∨
        (m ∈ ks.members (l.statusKey s) ∧ ¬ (s = before ∧ m = t.id)) := by
  rw [mem_members_transitionOps]
  unfold Layout.moveOps
  split_ifs
  · exact Iff.rfl
  · simp only [List.foldl_cons, List.foldl_nil, mem_members_apply, Layout.statusKey_inj]

/-- A transition leaves the set of all ids alone. -/
lemma mem_all_transitionOps (m : String) :
    m ∈ ((l.transitionOps before t).foldl apply ks).members l.allKey ↔ m ∈ ks.members l.allKey := by
  have hne := fun s => l.allKey_ne_statusKey s
  rw [mem_members_transitionOps]
  unfold Layout.moveOps
  split_ifs
  · exact Iff.rfl
  · simp only [List.foldl_cons, List.foldl_nil, mem_members_apply, hne, false_and, false_or,
      not_false_eq_true, and_true]

end Transition

/-! ### What the other batches write -/

section Others

variable (l : Layout) (ks : Keyspace) (id : String) (read t : Task)

/-- An insertion writes the hash of its task. -/
lemma hash_insertion :
    ((l.insertion t).ops.foldl apply ks).hash (l.taskKey id)
      = if id = t.id then (ks.hash (l.taskKey id)).insertAll (Layout.fields t)
        else ks.hash (l.taskKey id) := by
  simp only [Layout.insertion, Batch.ofOps, List.foldl_cons, List.foldl_nil, hash_apply,
    Layout.taskKey_inj]

lemma pending_insertion :
    ((l.insertion t).ops.foldl apply ks).scoredSet l.pendingKey
      = (ks.scoredSet l.pendingKey).add t.id t.createdAt := by
  simp only [Layout.insertion, Batch.ofOps, List.foldl_cons, List.foldl_nil, scoredSet_apply,
    if_true]

lemma inProgress_insertion :
    ((l.insertion t).ops.foldl apply ks).scoredSet l.inProgressKey
      = ks.scoredSet l.inProgressKey := by
  simp only [Layout.insertion, Batch.ofOps, List.foldl_cons, List.foldl_nil, scoredSet_apply,
    if_neg l.pendingKey_ne_inProgressKey.symm]

lemma mem_all_insertion (m : String) :
    m ∈ ((l.insertion t).ops.foldl apply ks).members l.allKey ↔
      m = t.id ∨ m ∈ ks.members l.allKey := by
  simp only [Layout.insertion, Batch.ofOps, List.foldl_cons, List.foldl_nil, mem_members_apply,
    true_and, l.allKey_ne_statusKey, false_and, false_or]

lemma mem_status_insertion (s : Status) (m : String) :
    m ∈ ((l.insertion t).ops.foldl apply ks).members (l.statusKey s) ↔
      (s = .pending ∧ m = t.id) ∨ m ∈ ks.members (l.statusKey s) := by
  simp only [Layout.insertion, Batch.ofOps, List.foldl_cons, List.foldl_nil, mem_members_apply,
    Layout.statusKey_inj, (l.allKey_ne_statusKey s).symm, false_and, false_or]

/-- The writes of a refresh, without the guards. -/
lemma refresh_ops :
    (l.refresh id read t).ops = .hashSet (l.taskKey id) (Layout.mutableFields t) ::
      if t.status = .inProgress then [.scoredAdd l.inProgressKey id t.updatedAt] else [] := rfl

/-- A refresh writes the hash of its task. -/
lemma hash_refresh (id' : String) :
    ((l.refresh id read t).ops.foldl apply ks).hash (l.taskKey id')
      = if id' = id then (ks.hash (l.taskKey id')).insertAll (Layout.mutableFields t)
        else ks.hash (l.taskKey id') := by
  rw [refresh_ops]
  split_ifs <;>
    simp_all only [List.foldl_cons, List.foldl_nil, hash_apply, Layout.taskKey_inj, if_true,
      if_false]

lemma pending_refresh :
    ((l.refresh id read t).ops.foldl apply ks).scoredSet l.pendingKey
      = ks.scoredSet l.pendingKey := by
  rw [refresh_ops]
  split_ifs <;>
    simp only [List.foldl_cons, List.foldl_nil, scoredSet_apply,
      if_neg l.pendingKey_ne_inProgressKey]

/-- A refresh indexes a leased task by its new update time. -/
lemma inProgress_refresh :
    ((l.refresh id read t).ops.foldl apply ks).scoredSet l.inProgressKey
      = if t.status = .inProgress then (ks.scoredSet l.inProgressKey).add id t.updatedAt
        else ks.scoredSet l.inProgressKey := by
  rw [refresh_ops]
  split_ifs <;> simp only [List.foldl_cons, List.foldl_nil, scoredSet_apply, if_true]

lemma mem_members_refresh (key m : String) :
    m ∈ ((l.refresh id read t).ops.foldl apply ks).members key ↔ m ∈ ks.members key := by
  rw [refresh_ops]
  split_ifs <;> simp only [List.foldl_cons, List.foldl_nil, mem_members_apply]

end Others

end Keyspace

end LeaseQueue
