/-
The indexes of a task layout agree with its hashes.

* `Keyspace.Indexed`: the queue, the leases and the id sets hold what the stored tasks say, up to a
  set of waiting tasks that the queue has lost;
* `Indexed.insert`, `Indexed.transition`, `Indexed.refresh`, `Indexed.restore`, `Indexed.pop`: what
  each batch and each pop does to the stored tasks and to the lost ones.

A popped task is lost until its lease is written or it is put back.
-/
import LeaseQueue.Proofs.Keyspace.Tasks
import LeaseQueue.Proofs.Task.Order

namespace LeaseQueue

namespace Keyspace

/-- The indexes of a layout agree with its hashes; only tasks in `lost` may wait outside the
queue. -/
structure Indexed (l : Layout) (lost : Set String) (ks : Keyspace) : Prop where
  sound : Sound l ks
  inStep : ks.InStep
  queued : ∀ {id x}, (ks.scoredSet l.pendingKey).score? id = some x →
    ∃ t, ks.task? l id = some t ∧ t.status = .pending ∧ t.createdAt = x
  waiting : ∀ {id t}, ks.task? l id = some t → t.status = .pending → id ∉ lost →
    (ks.scoredSet l.pendingKey).score? id = some t.createdAt
  leased : ∀ id, (ks.scoredSet l.inProgressKey).score? id = (ks.task? l id).bind Task.leaseScore?
  all : ∀ id, id ∈ ks.members l.allKey ↔ ∃ t, ks.task? l id = some t
  listed : ∀ s id, id ∈ ks.members (l.statusKey s) ↔ ∃ t, ks.task? l id = some t ∧ t.status = s

lemma indexed_empty (l : Layout) : Indexed l ∅ empty where
  sound := sound_empty l
  inStep := inStep_empty
  queued h := by simp [scoredSet_empty] at h
  waiting h := by simp [task?_empty] at h
  leased id := by simp [scoredSet_empty, task?_empty]
  all id := by simp [members_empty, task?_empty]
  listed s id := by simp [members_empty, task?_empty]

namespace Indexed

variable {l : Layout} {lost : Set String} {ks : Keyspace}

lemma mono (h : Indexed l lost ks) {lost' : Set String} (hsub : lost ⊆ lost') :
    Indexed l lost' ks where
  sound := h.sound
  inStep := h.inStep
  queued := h.queued
  waiting ht hs hid := h.waiting ht hs fun hmem => hid (hsub hmem)
  leased := h.leased
  all := h.all
  listed := h.listed

/-- The ids that list the tasks of a status, or all tasks. -/
lemma mem_indexKey (h : Indexed l lost ks) (status : Option Status) (id : String) :
    id ∈ ks.members (l.indexKey status) ↔
      ∃ t, ks.task? l id = some t ∧ status.all (· = t.status) = true := by
  cases status with
  | none => simpa [Layout.indexKey] using h.all id
  | some s => simpa [Layout.indexKey, eq_comm] using h.listed s id

/-- The overdue ids are those of the overdue tasks. -/
lemma mem_below (h : Indexed l lost ks) (threshold : Timestamp) (id : String) :
    id ∈ (ks.scoredSet l.inProgressKey).below threshold ↔
      ∃ t, ks.task? l id = some t ∧ t.isOverdue threshold = true := by
  rw [(h.inStep _).mem_below_iff]
  simp only [h.leased, Option.bind_eq_some_iff, Task.leaseScore?, Task.isOverdue]
  constructor
  · rintro ⟨x, ⟨t, ht, hx⟩, hlt⟩
    split_ifs at hx with hs
    obtain rfl := Option.some.inj hx
    exact ⟨t, ht, by simp [hs, hlt]⟩
  · rintro ⟨t, ht, ho⟩
    rw [Bool.and_eq_true, decide_eq_true_eq, decide_eq_true_eq] at ho
    exact ⟨t.updatedAt, ⟨t, ht, if_pos ho.1⟩, ho.2⟩

/-! ### Writing a task -/

/-- What a batch does that stores one task. -/
structure Stored (l : Layout) (ks : Keyspace) (t : Task) (ks' : Keyspace) : Prop where
  sound : Sound l ks'
  inStep : ks'.InStep
  task?_eq : ∀ id, ks'.task? l id = if id = t.id then some t.kept else ks.task? l id
  pending_of_ne : ∀ {id}, id ≠ t.id →
    (ks'.scoredSet l.pendingKey).score? id = (ks.scoredSet l.pendingKey).score? id
  leased_of_ne : ∀ {id}, id ≠ t.id →
    (ks'.scoredSet l.inProgressKey).score? id = (ks.scoredSet l.inProgressKey).score? id
  leased_self : (ks'.scoredSet l.inProgressKey).score? t.id = t.leaseScore?
  mem_all : ∀ id, id ∈ ks'.members l.allKey ↔ id = t.id ∨ id ∈ ks.members l.allKey
  mem_status_of_ne : ∀ {id} s, id ≠ t.id →
    (id ∈ ks'.members (l.statusKey s) ↔ id ∈ ks.members (l.statusKey s))
  mem_status_self : ∀ s, t.id ∈ ks'.members (l.statusKey s) ↔ s = t.status

/-- A stored task that is queued exactly while it waits keeps the indexes in agreement. -/
lemma of_stored (h : Indexed l lost ks) {ks' : Keyspace} {t : Task} (hst : Stored l ks t ks')
    {lost' : Set String} (hlost : ∀ id, id ≠ t.id → id ∉ lost' → id ∉ lost)
    (hqueued : ∀ {x}, (ks'.scoredSet l.pendingKey).score? t.id = some x →
      t.status = .pending ∧ t.createdAt = x)
    (hwaiting : t.status = .pending → t.id ∉ lost' →
      (ks'.scoredSet l.pendingKey).score? t.id = some t.createdAt) :
    Indexed l lost' ks' where
  sound := hst.sound
  inStep := hst.inStep
  queued {id x} hx := by
    rw [hst.task?_eq]
    by_cases hid : id = t.id
    · subst hid
      rw [if_pos rfl]
      exact ⟨t.kept, rfl, hqueued hx⟩
    · rw [if_neg hid]
      exact h.queued (hst.pending_of_ne hid ▸ hx)
  waiting {id u} hu hs hid' := by
    rw [hst.task?_eq] at hu
    by_cases hid : id = t.id
    · subst hid
      rw [if_pos rfl] at hu
      obtain rfl := Option.some.inj hu
      exact hwaiting hs hid'
    · rw [if_neg hid] at hu
      rw [hst.pending_of_ne hid]
      exact h.waiting hu hs (hlost id hid hid')
  leased id := by
    rw [hst.task?_eq]
    by_cases hid : id = t.id
    · subst hid
      rw [if_pos rfl]
      exact hst.leased_self
    · rw [if_neg hid, hst.leased_of_ne hid]
      exact h.leased id
  all id := by
    rw [hst.task?_eq, hst.mem_all, h.all]
    by_cases hid : id = t.id <;> simp [hid]
  listed s id := by
    rw [hst.task?_eq]
    by_cases hid : id = t.id
    · subst hid
      rw [hst.mem_status_self, if_pos rfl]
      simp [eq_comm]
    · rw [hst.mem_status_of_ne s hid, if_neg hid]
      exact h.listed s id

/-- An insertion stores a new task. -/
lemma stored_insertion (h : Indexed l lost ks) {t : Task} (hnew : ks.task? l t.id = none)
    (hpending : t.status = .pending) :
    Stored l ks t ((l.insertion t).ops.foldl apply ks) := by
  have hleased : (ks.scoredSet l.inProgressKey).score? t.id = none := by
    rw [h.leased, hnew, Option.bind_none]
  have hlisted : ∀ s, t.id ∉ ks.members (l.statusKey s) := by
    intro s hs
    obtain ⟨u, hu, -⟩ := (h.listed s t.id).mp hs
    simp [hnew] at hu
  obtain ⟨hsound, htask⟩ := @Sound.put l ks _ h.sound t fun id => by
    rw [hash_insertion]
    by_cases hid : id = t.id
    · rw [if_pos hid, if_pos hid, hid, h.sound.hash_of_none hnew, Layout.record]
    · rw [if_neg hid, if_neg hid]
  exact
    { sound := hsound
      inStep := h.inStep.foldl _
      task?_eq := htask
      pending_of_ne := fun {id} hid => by
        rw [pending_insertion, ScoredSet.score?_add, if_neg hid]
      leased_of_ne := fun _ => by rw [inProgress_insertion]
      leased_self := by
        rw [inProgress_insertion, hleased, Task.leaseScore?, hpending]
        rfl
      mem_all := mem_all_insertion l ks t
      mem_status_of_ne := fun {id} s hid => by simp [mem_status_insertion, hid]
      mem_status_self := fun s => by simp [mem_status_insertion, hlisted s, hpending] }

lemma insert (h : Indexed l lost ks) {t : Task} (hnew : ks.task? l t.id = none)
    (hpending : t.status = .pending) :
    Indexed l lost ((l.insertion t).ops.foldl apply ks) ∧
      ∀ id, ((l.insertion t).ops.foldl apply ks).task? l id
        = if id = t.id then some t.kept else ks.task? l id := by
  have hst := h.stored_insertion hnew hpending
  have hscore : (((l.insertion t).ops.foldl apply ks).scoredSet l.pendingKey).score? t.id
      = some t.createdAt := by
    rw [pending_insertion, ScoredSet.score?_add, if_pos rfl]
  refine ⟨h.of_stored hst (fun id _ hid => hid) (fun hx => ?_) fun _ _ => hscore, hst.task?_eq⟩
  exact ⟨hpending, Option.some.inj (hscore.symm.trans hx)⟩

/-- A transition stores the changed task. -/
lemma stored_transition (h : Indexed l lost ks) {stored t : Task}
    (hstored : ks.task? l t.id = some stored) (hsame : Task.SameIdentity t stored) :
    Stored l ks t ((l.transitionOps stored.status t).foldl apply ks) := by
  obtain ⟨hsound, htask⟩ :=
    h.sound.write hstored hsame (hash_transitionOps l ks stored.status t)
  have hlisted : ∀ s, t.id ∈ ks.members (l.statusKey s) ↔ stored.status = s := by
    intro s
    rw [h.listed]
    constructor
    · rintro ⟨u, hu, hs⟩
      rw [hstored, Option.some_inj] at hu
      rw [hu, hs]
    · intro hs
      exact ⟨stored, hstored, hs⟩
  exact
    { sound := hsound
      inStep := h.inStep.foldl _
      task?_eq := htask
      pending_of_ne := fun {id} hid => by
        rw [pending_transitionOps]
        split_ifs
        · rw [ScoredSet.score?_add, if_neg hid]
        · rw [ScoredSet.score?_remove, if_neg hid]
      leased_of_ne := fun {id} hid => by
        rw [inProgress_transitionOps]
        split_ifs
        · rw [ScoredSet.score?_add, if_neg hid]
        · rw [ScoredSet.score?_remove, if_neg hid]
      leased_self := by
        rw [inProgress_transitionOps, Task.leaseScore?]
        split_ifs
        · rw [ScoredSet.score?_add, if_pos rfl]
        · rw [ScoredSet.score?_remove, if_pos rfl]
      mem_all := fun id => by
        rw [mem_all_transitionOps, h.all]
        refine ⟨Or.inr, ?_⟩
        rintro (rfl | hid)
        · exact ⟨stored, hstored⟩
        · exact hid
      mem_status_of_ne := fun {id} s hid => by
        rw [mem_status_transitionOps]
        split_ifs <;> simp [hid]
      mem_status_self := fun s => by
        rw [mem_status_transitionOps, hlisted]
        split_ifs with hs
        · rw [hs, eq_comm]
        · constructor
          · rintro (⟨hs', -⟩ | ⟨hs', hne⟩)
            · exact hs'
            · exact absurd ⟨hs'.symm, rfl⟩ hne
          · intro hs'
            exact Or.inl ⟨hs', rfl⟩ }

/-- After a transition its task is not lost, whether it was before or not. -/
lemma transition (h : Indexed l lost ks) {stored t : Task}
    (hstored : ks.task? l t.id = some stored) (hsame : Task.SameIdentity t stored) :
    Indexed l (lost \ {t.id}) ((l.transitionOps stored.status t).foldl apply ks) ∧
      ∀ id, ((l.transitionOps stored.status t).foldl apply ks).task? l id
        = if id = t.id then some t.kept else ks.task? l id := by
  have hst := h.stored_transition hstored hsame
  refine ⟨h.of_stored hst (fun id hne hid hmem => hid ⟨hmem, hne⟩) (fun {x} hx => ?_)
    fun hs _ => ?_, hst.task?_eq⟩
  · rw [pending_transitionOps] at hx
    split_ifs at hx with hs
    · rw [ScoredSet.score?_add, if_pos rfl] at hx
      exact ⟨hs, Option.some.inj hx⟩
    · rw [ScoredSet.score?_remove, if_pos rfl] at hx
      simp at hx
  · rw [pending_transitionOps, if_pos hs, ScoredSet.score?_add, if_pos rfl]

/-- A refresh stores the task with its new update time. -/
lemma stored_refresh (h : Indexed l lost ks) {stored t : Task} (read : Task)
    (hstored : ks.task? l t.id = some stored) (hsame : Task.SameIdentity t stored)
    (hstatus : t.status = stored.status) :
    Stored l ks t ((l.refresh t.id read t).ops.foldl apply ks) := by
  obtain ⟨hsound, htask⟩ := h.sound.write hstored hsame (hash_refresh l ks t.id read t)
  exact
    { sound := hsound
      inStep := h.inStep.foldl _
      task?_eq := htask
      pending_of_ne := fun _ => by rw [pending_refresh]
      leased_of_ne := fun {id} hid => by
        rw [inProgress_refresh]
        split_ifs
        · rw [ScoredSet.score?_add, if_neg hid]
        · rfl
      leased_self := by
        rw [inProgress_refresh, Task.leaseScore?]
        split_ifs with hs
        · rw [ScoredSet.score?_add, if_pos rfl]
        · rw [h.leased, hstored, Option.bind_some, Task.leaseScore?, ← hstatus, if_neg hs]
      mem_all := fun id => by
        rw [mem_members_refresh, h.all]
        refine ⟨Or.inr, ?_⟩
        rintro (rfl | hid)
        · exact ⟨stored, hstored⟩
        · exact hid
      mem_status_of_ne := fun s _ => mem_members_refresh l ks t.id read t _ _
      mem_status_self := fun s => by
        rw [mem_members_refresh, h.listed, hstored, hstatus]
        simp [eq_comm] }

lemma refresh (h : Indexed l lost ks) {stored t : Task} (read : Task)
    (hstored : ks.task? l t.id = some stored) (hsame : Task.SameIdentity t stored)
    (hstatus : t.status = stored.status) :
    Indexed l lost ((l.refresh t.id read t).ops.foldl apply ks) ∧
      ∀ id, ((l.refresh t.id read t).ops.foldl apply ks).task? l id
        = if id = t.id then some t.kept else ks.task? l id := by
  have hst := h.stored_refresh read hstored hsame hstatus
  have hcreated : t.createdAt = stored.createdAt := hsame.2.2.2.2
  refine ⟨h.of_stored hst (fun id _ hid => hid) (fun {x} hx => ?_) fun hs hid => ?_, hst.task?_eq⟩
  · rw [pending_refresh] at hx
    obtain ⟨u, hu, hs, hc⟩ := h.queued hx
    rw [hstored, Option.some_inj] at hu
    subst hu
    exact ⟨hstatus.trans hs, hcreated.trans hc⟩
  · rw [pending_refresh, hcreated]
    exact h.waiting hstored (hstatus ▸ hs) hid

/-! ### Moving an id in and out of the queue -/

/-- A change of the queue alone keeps the other indexes in agreement. -/
lemma of_queue (h : Indexed l lost ks) {ks' : Keyspace} {lost' : Set String}
    (hstep : ks'.InStep) (hhash : ∀ key, ks'.hash key = ks.hash key)
    (hmembers : ∀ key id, id ∈ ks'.members key ↔ id ∈ ks.members key)
    (hleases : ks'.scoredSet l.inProgressKey = ks.scoredSet l.inProgressKey)
    (hqueued : ∀ {id x}, (ks'.scoredSet l.pendingKey).score? id = some x →
      ∃ t, ks.task? l id = some t ∧ t.status = .pending ∧ t.createdAt = x)
    (hwaiting : ∀ {id t}, ks.task? l id = some t → t.status = .pending → id ∉ lost' →
      (ks'.scoredSet l.pendingKey).score? id = some t.createdAt) :
    Indexed l lost' ks' ∧ ∀ id, ks'.task? l id = ks.task? l id := by
  have htask : ∀ id, ks'.task? l id = ks.task? l id := fun id => task?_congr (hhash _)
  refine ⟨⟨h.sound.congr fun id => hhash _, hstep, fun {id x} hx => ?_, fun {id t} ht hs hid => ?_,
    fun id => ?_, fun id => ?_, fun s id => ?_⟩, htask⟩
  · rw [htask]
    exact hqueued hx
  · rw [htask] at ht
    exact hwaiting ht hs hid
  · rw [htask, hleases]
    exact h.leased id
  · rw [htask, hmembers]
    exact h.all id
  · rw [htask, hmembers]
    exact h.listed s id

/-- Putting an id back with the creation time of its task. -/
lemma restore (h : Indexed l lost ks) {id : String} {t : Task} (ht : ks.task? l id = some t)
    (hs : t.status = .pending) :
    Indexed l (lost \ {id}) ((l.restore id t.createdAt).ops.foldl apply ks) ∧
      ∀ id', ((l.restore id t.createdAt).ops.foldl apply ks).task? l id' = ks.task? l id' := by
  have hpending : ((l.restore id t.createdAt).ops.foldl apply ks).scoredSet l.pendingKey
      = (ks.scoredSet l.pendingKey).add id t.createdAt := by
    simp only [Layout.restore, Batch.ofOps, List.foldl_cons, List.foldl_nil, scoredSet_apply,
      if_true]
  refine h.of_queue (h.inStep.foldl _) (fun key => ?_) (fun key m => ?_) ?_ (fun {id' x} hx => ?_)
    fun {id' u} hu hs' hid' => ?_
  · simp only [Layout.restore, Batch.ofOps, List.foldl_cons, List.foldl_nil, hash_apply]
  · simp only [Layout.restore, Batch.ofOps, List.foldl_cons, List.foldl_nil, mem_members_apply]
  · simp only [Layout.restore, Batch.ofOps, List.foldl_cons, List.foldl_nil, scoredSet_apply,
      if_neg l.pendingKey_ne_inProgressKey.symm]
  · rw [hpending, ScoredSet.score?_add] at hx
    split_ifs at hx with hid
    · exact ⟨t, hid ▸ ht, hs, Option.some.inj hx⟩
    · exact h.queued hx
  · rw [hpending, ScoredSet.score?_add]
    split_ifs with hid
    · rw [hid, ht, Option.some_inj] at hu
      rw [hu]
    · exact h.waiting hu hs' fun hmem => hid' ⟨hmem, hid⟩

/-- An empty queue waits for nothing but lost tasks. -/
lemma no_waiting (h : Indexed l lost ks) (hpop : (ks.scoredSet l.pendingKey).popMin = none)
    {id : String} {t : Task} (ht : ks.task? l id = some t) (hs : t.status = .pending) :
    id ∈ lost := by
  by_contra hid
  have hscore := h.waiting ht hs hid
  rw [(ScoredSet.popMin_eq_none_iff (h.inStep _)).mp hpop] at hscore
  simp at hscore

/-- Popping gives the first waiting task that is not lost, which then is. -/
lemma pop (h : Indexed l lost ks) {id : String} {x : Int64} {rest : ScoredSet}
    (hpop : (ks.scoredSet l.pendingKey).popMin = some ((id, x), rest)) :
    (∃ t, ks.task? l id = some t ∧ t.status = .pending ∧ t.createdAt = x ∧
        ∀ id' t', ks.task? l id' = some t' → t'.status = .pending → id' ∉ lost →
          Task.le t t' = true) ∧
      Indexed l (lost ∪ {id}) (ks.popMin l.pendingKey).2 ∧
      ∀ id', (ks.popMin l.pendingKey).2.task? l id' = ks.task? l id' := by
  obtain ⟨hscore, hleast⟩ := (h.inStep l.pendingKey).popMin_least hpop
  obtain ⟨t, ht, hs, hx⟩ := h.queued hscore
  have hset : (ks.popMin l.pendingKey).2.scoredSet l.pendingKey = rest := by
    rcases ks.popMin_cases l.pendingKey with ⟨hnone, -⟩ | ⟨entry, rest', hsome, -, hrest⟩
    · rw [hnone] at hpop
      simp at hpop
    · rw [hsome, Option.some_inj, Prod.mk.injEq] at hpop
      rw [hrest, hpop.2]
  refine ⟨⟨t, ht, hs, hx, fun id' t' ht' hs' hid' => ?_⟩, ?_⟩
  · rw [Task.le_iff, h.sound.id_eq ht, h.sound.id_eq ht']
    by_cases heq : id' = id
    · subst heq
      rw [ht, Option.some_inj] at ht'
      exact Or.inr ⟨ht' ▸ rfl, String.le_refl _⟩
    · have hlt := ScoredSet.precedes_iff.mp (hleast id' _ (h.waiting ht' hs' hid') heq)
      rcases hlt with hlt | ⟨hxe, hlt⟩
      · exact Or.inl (hx ▸ hlt)
      · exact Or.inr ⟨hx ▸ hxe, String.not_lt.mp (String.lt_asymm hlt)⟩
  · refine h.of_queue (h.inStep.popMin _) (fun key => hash_popMin ks _ key)
      (fun key m => by rw [members_popMin])
      (scoredSet_popMin_of_ne ks l.pendingKey_ne_inProgressKey.symm) (fun {id' y} hy => ?_)
      fun {id' u} hu hs' hid' => ?_
    · rw [hset, ScoredSet.score?_popMin hpop] at hy
      split_ifs at hy
      exact h.queued hy
    · have hne : id' ≠ id := fun heq => hid' (Or.inr heq)
      rw [hset, ScoredSet.score?_popMin hpop, if_neg hne]
      exact h.waiting hu hs' fun hmem => hid' (Or.inl hmem)

end Indexed

end Keyspace

end LeaseQueue
