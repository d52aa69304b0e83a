/-
Leasing from a queue with stale and damaged entries.

* `Keyspace.Waits`: a waiting task that can be read;
* `Keyspace.Queued`: every such task is stored as it was written and stands in the queue; whatever
  else stands there is no condition;
* `Keyspace.Discards`: some first entries of the queue are gone, and nothing else has changed;
* `Keyspace.Leases`: the first entries of the queue are gone, and the task of the last of them is
  leased;
* `Queued.ends_popping`: popping passes over entries for which nothing waits and leases the first
  task that waits.
-/
import LeaseQueue.Proofs.Keyspace.Cost
import LeaseQueue.Proofs.Keyspace.Tasks
import LeaseQueue.Proofs.Record.Reading
import LeaseQueue.Proofs.Task.Order

namespace LeaseQueue.Keyspace

variable {l : Layout} {ks ks' : Keyspace} {id worker : String} {now : Timestamp} {t : Task}

/-! ### Stored tasks -/

/-- The tasks stored under an id are those that its hash reads as. -/
lemma task?_eq_some_iff :
    ks.task? l id = some t ↔ Layout.Reads (ks.hash (l.taskKey id)) t := by
  have hempty : ¬ Layout.Reads SortedMap.empty t := fun h => by
    have hid := h.id
    simp at hid
  rw [task?, Layout.decode?]
  split_ifs with hhash
  · rw [SortedMap.isEmpty_iff] at hhash
    simp [hhash, hempty]
  · rw [← @Layout.decode_eq_ok_iff (l.taskKey id)]
    cases Layout.decode (l.taskKey id) (ks.hash (l.taskKey id)) <;> simp [Except.map]

/-- A hash that has been read holds its task, if there is one that can be read; otherwise the hash
is empty or reported as corrupted. -/
lemma loaded_cases (l : Layout) (ks : Keyspace) (id : String) :
    let loaded := Stage.loaded (l.taskKey id) (.ok (.fields (ks.hash (l.taskKey id))))
    (∃ t, ks.task? l id = some t ∧ loaded = .ok (some t)) ∨
      ks.task? l id = none ∧
        (loaded = .ok none ∨ ∃ reason, loaded = .error (.corrupted (l.taskKey id) reason)) := by
  have hcorrupts := Layout.corrupts_decode (l.taskKey id) (ks.hash (l.taskKey id))
  simp only [Stage.loaded, task?, Layout.decode?]
  split_ifs with hhash
  · exact .inr ⟨rfl, .inl rfl⟩
  · cases hdecode : Layout.decode (l.taskKey id) (ks.hash (l.taskKey id)) with
    | ok t => exact .inl ⟨t, rfl, rfl⟩
    | error e =>
        rw [hdecode] at hcorrupts
        obtain ⟨reason, rfl⟩ := hcorrupts
        exact .inr ⟨rfl, .inr ⟨reason, rfl⟩⟩

/-- A waiting task that has been read is leased. -/
lemma claimRead_of_pending (ht : ks.task? l id = some t) (hs : t.status = .pending) (x : Int64)
    (tries : Nat) :
    Stage.claimRead now worker id x tries
        (Stage.loaded (l.taskKey id) (.ok (.fields (ks.hash (l.taskKey id)))))
      = .leasing worker id x (tries - 1) t (t.claim worker now) := by
  obtain ⟨t', ht', hloaded⟩ | ⟨hnone, -⟩ := loaded_cases l ks id
  · obtain rfl := Option.some.inj (ht'.symm.trans ht)
    rw [hloaded, Stage.claimRead, if_pos hs]
  · rw [ht] at hnone
    cases hnone

/-- Whatever else has been read is passed over. -/
lemma claimRead_of_ne_pending (h : ∀ t, ks.task? l id = some t → t.status ≠ .pending) (x : Int64)
    (tries : Nat) :
    Stage.claimRead now worker id x tries
        (Stage.loaded (l.taskKey id) (.ok (.fields (ks.hash (l.taskKey id)))))
      = .popping worker := by
  obtain ⟨t, ht, hloaded⟩ | ⟨-, hloaded | ⟨reason, hloaded⟩⟩ := loaded_cases l ks id
  · rw [hloaded, Stage.claimRead, if_neg (h t ht)]
  · rw [hloaded, Stage.claimRead]
  · rw [hloaded, Stage.claimRead]

/-! ### Queues -/

/-- A task that waits and can be read. -/
def Waits (l : Layout) (ks : Keyspace) (t : Task) : Prop :=
  t.status = .pending ∧ ∃ id, ks.task? l id = some t

/-- No task waits under the ids of these entries. -/
def Idle (l : Layout) (ks : Keyspace) (entries : List (Int64 × String)) : Prop :=
  ∀ e ∈ entries, ∀ t, ks.task? l e.2 = some t → t.status ≠ .pending

/-- Every task that waits and can be read is stored under its own id, its update time is written as
it is when it is stored, it can be leased once more, and it stands in the queue with its creation
time. -/
structure Queued (l : Layout) (ks : Keyspace) : Prop where
  inStep : ks.InStep
  id_eq : ∀ {id t}, ks.task? l id = some t → t.status = .pending → t.id = id
  updatedAt : ∀ {id t}, ks.task? l id = some t → t.status = .pending →
    (ks.hash (l.taskKey id)).get? "updated_at" = some (Decimal.text t.updatedAt.toInt)
  attempts : ∀ {id t}, ks.task? l id = some t → t.status = .pending →
    t.attempts.toNat + 1 < UInt32.size
  score? : ∀ {id t}, ks.task? l id = some t → t.status = .pending →
    (ks.scoredSet l.pendingKey).score? id = some t.createdAt

/-- The queue has only these last entries left, and nothing else has changed. -/
structure Discards (l : Layout) (left : List (Int64 × String)) (ks ks' : Keyspace) : Prop where
  inStep : ks'.InStep
  queue : (ks'.scoredSet l.pendingKey).ordered = left
  hash : ∀ key, ks'.hash key = ks.hash key
  scoredSet : ∀ key ≠ l.pendingKey, ks'.scoredSet key = ks.scoredSet key
  members : ∀ key, ks'.members key = ks.members key

/-- A task is leased, the queue has only these last entries left, and nothing else has changed. -/
structure Leases (l : Layout) (worker : String) (now : Timestamp) (t : Task)
    (left : List (Int64 × String)) (ks ks' : Keyspace) : Prop where
  stored : ks'.task? l t.id = some (t.claim worker now).kept
  hash : ∀ key, ks'.hash key =
    if key = l.taskKey t.id then (ks.hash key).insertAll (Layout.mutableFields (t.claim worker now))
    else ks.hash key
  queue : (ks'.scoredSet l.pendingKey).ordered = left
  leases : ks'.scoredSet l.inProgressKey = (ks.scoredSet l.inProgressKey).add t.id now
  scoredSet : ∀ key ≠ l.pendingKey, key ≠ l.inProgressKey → ks'.scoredSet key = ks.scoredSet key
  members : ∀ key m, m ∈ ks'.members key ↔
    if key = l.statusKey .pending then m ∈ ks.members key ∧ m ≠ t.id
    else if key = l.statusKey .inProgress then m = t.id ∨ m ∈ ks.members key
    else m ∈ ks.members key

/-- What comes of leasing the first waiting task: it is leased and the entries before it are gone,
or no task waits and the queue is empty. -/
inductive Dequeued (l : Layout) (worker : String) (now : Timestamp) (ks : Keyspace) :
    Except StoreError Outcome → Keyspace → Prop
  | leased {t : Task} {lead left : List (Int64 × String)} {ks' : Keyspace}
      (waits : Waits l ks t) (least : ∀ t', Waits l ks t' → Task.le t t' = true)
      (queue : (ks.scoredSet l.pendingKey).ordered = lead ++ (t.createdAt, t.id) :: left)
      (idle : Idle l ks lead) (leases : Leases l worker now t left ks ks') :
      Dequeued l worker now ks (.ok (.found (some (t.claim worker now)))) ks'
  | idle {ks' : Keyspace} (idle : ∀ t, ¬ Waits l ks t) (discards : Discards l [] ks ks') :
      Dequeued l worker now ks (.ok (.found none)) ks'

/-! ### Popping -/

lemma Discards.refl (h : ks.InStep) :
    Discards l (ks.scoredSet l.pendingKey).ordered ks ks :=
  ⟨h, rfl, fun _ => rfl, fun _ _ => rfl, fun _ => rfl⟩

/-- The next entry is popped. -/
lemma Discards.popMin {x : Int64} {left : List (Int64 × String)}
    (h : Discards l ((x, id) :: left) ks ks') :
    ∃ ks'', ks'.answer (.popMin l.pendingKey) = (.popped (some (id, x)), ks'') ∧
      (ks''.scoredSet l.pendingKey).score? id = none ∧ Discards l left ks ks'' := by
  have hpop : (ks'.scoredSet l.pendingKey).popMin
      = some ((id, x), ⟨(ks'.scoredSet l.pendingKey).scores.erase id, left⟩) := by
    rw [ScoredSet.popMin, h.queue]
  rcases ks'.popMin_cases l.pendingKey with ⟨hnone, -⟩ | ⟨entry, rest, hsome, hentry, hrest⟩
  · rw [hnone] at hpop
    cases hpop
  · rw [hsome, Option.some_inj, Prod.mk.injEq] at hpop
    obtain ⟨rfl, rfl⟩ := hpop
    refine ⟨(ks'.popMin l.pendingKey).2, by simp only [answer, hentry], ?_, ?_⟩
    · rw [hrest, ScoredSet.score?_popMin hsome, if_pos rfl]
    · exact
      { inStep := h.inStep.popMin l.pendingKey
        queue := by rw [hrest]
        hash := fun key => (ks'.hash_popMin _ key).trans (h.hash key)
        scoredSet := fun key hkey =>
          (ks'.scoredSet_popMin_of_ne hkey).trans (h.scoredSet key hkey)
        members := fun key => (ks'.members_popMin _ key).trans (h.members key) }

/-! ### Leasing -/

namespace Queued

variable (h : Queued l ks)

include h in
/-- A task that waits stands in the queue. -/
lemma mem_ordered (hwaits : Waits l ks t) :
    (t.createdAt, t.id) ∈ (ks.scoredSet l.pendingKey).ordered := by
  obtain ⟨hs, id, ht⟩ := hwaits
  rw [(h.inStep l.pendingKey).mem_iff, h.id_eq ht hs]
  exact h.score? ht hs

include h in
/-- The first entry for which a task waits is that of the least task that waits. -/
lemma le_of_waits {lead left : List (Int64 × String)}
    (hqueue : (ks.scoredSet l.pendingKey).ordered = lead ++ (t.createdAt, t.id) :: left)
    (hidle : Idle l ks lead) {t' : Task} (hwaits : Waits l ks t') : Task.le t t' = true := by
  have hmem := h.mem_ordered hwaits
  have hsorted := (h.inStep l.pendingKey).sorted
  obtain ⟨hs, id, ht⟩ := hwaits
  have hid := h.id_eq ht hs
  rw [hqueue, List.mem_append, List.mem_cons] at hmem
  rw [Task.le_iff]
  rcases hmem with hmem | heq | hmem
  · exact absurd hs (hidle _ hmem t' (hid.symm ▸ ht))
  · obtain ⟨hcreated, hid⟩ : t'.createdAt = t.createdAt ∧ t'.id = t.id := Prod.ext_iff.mp heq
    exact .inr ⟨hcreated.symm, hid ▸ String.le_refl _⟩
  · rw [hqueue, List.pairwise_append, List.pairwise_cons] at hsorted
    have hprecedes := hsorted.2.1.1 _ hmem
    rw [ScoredSet.precedes_iff] at hprecedes
    exact hprecedes.imp_right fun ⟨hcreated, hlt⟩ =>
      ⟨hcreated, String.not_lt.mp (String.lt_asymm hlt)⟩

end Queued

/-- A popped task is leased. -/
lemma Discards.lease {left : List (Int64 × String)} (h : Discards l left ks ks')
    (hnone : (ks'.scoredSet l.pendingKey).score? t.id = none) (ht : ks.task? l t.id = some t)
    (hs : t.status = .pending) :
    Leases l worker now t left ks
      ((l.transition t (t.claim worker now)).ops.foldl apply ks') := by
  have hclaimed : (t.claim worker now).status = .inProgress := rfl
  have hops : (l.transition t (t.claim worker now)).ops
      = l.transitionOps .pending (t.claim worker now) := by rw [← hs]; rfl
  have hhash (key : String) : ((l.transitionOps .pending (t.claim worker now)).foldl apply ks').hash
      key = if key = l.taskKey t.id
        then (ks.hash key).insertAll (Layout.mutableFields (t.claim worker now))
        else ks.hash key := by
    rw [hash_transitionOps_key, h.hash]
    rfl
  rw [hops]
  constructor
  · rw [task?_eq_some_iff] at ht ⊢
    rw [hhash, if_pos rfl]
    exact ht.insertAll_mutableFields (t.sameIdentity_claim worker now)
  · exact hhash
  · rw [pending_transitionOps, if_neg (by simp [hclaimed]),
      ScoredSet.remove_eq_self (by exact hnone), h.queue]
  · rw [inProgress_transitionOps, if_pos hclaimed,
      h.scoredSet _ l.pendingKey_ne_inProgressKey.symm]
    rfl
  · intro key hpending hinProgress
    rw [scoredSet_transitionOps, Layout.queueOps, hclaimed, ← h.scoredSet key hpending]
    simp [scoredSet_apply, hpending, hinProgress]
  · intro key m
    rw [mem_members_transitionOps, Layout.moveOps, hclaimed, if_neg (by decide)]
    simp only [List.foldl_cons, List.foldl_nil, mem_members_apply, h.members]
    have hid : (t.claim worker now).id = t.id := rfl
    have hkeys : l.statusKey .pending ≠ l.statusKey .inProgress := by simp [Layout.statusKey_inj]
    rw [hid]
    split_ifs with hpending hinProgress
    · simp [hpending, hkeys]
    · simp [hinProgress, hkeys.symm]
    · simp [hpending, hinProgress]

/-! ### Dequeues -/

/-- The lease of a popped task goes through. -/
lemma Queued.answer_transition (h : Queued l ks) {left : List (Int64 × String)}
    (hks : Discards l left ks ks') (ht : ks.task? l t.id = some t) (hs : t.status = .pending) :
    ks'.answer (.commit (l.transition t (t.claim worker now))) = (.committed true,
      (l.transition t (t.claim worker now)).ops.foldl apply ks') := by
  refine answer_commit ks' ?_
  have hstatus := (task?_eq_some_iff.mp ht).status
  have hupdated := h.updatedAt ht hs
  simp [Layout.transition, Layout.guarded, Batch.add, holds_iff, hks.hash, hstatus, hupdated]

/-- Popping goes on over entries for which no task waits until it leases a task. -/
theorem Queued.ends_popping (h : Queued l ks) (worker : String) (now : Timestamp)
    {lead left : List (Int64 × String)} (hks : Discards l left ks ks')
    (hqueue : (ks.scoredSet l.pendingKey).ordered = lead ++ left) (hlead : Idle l ks lead) :
    Stage.Ends l now (Dequeued l worker now ks) (3 * left.length + 1) (.popping worker) ks' := by
  induction left generalizing lead ks' with
  | nil =>
      have hanswer : ks'.answer (.popMin l.pendingKey) = (.popped none, ks') := by
        rw [answer, popMin, ScoredSet.popMin, hks.queue]
      refine .step rfl hanswer (.finished (.idle (fun t hwaits => ?_) hks))
      have hmem := h.mem_ordered hwaits
      obtain ⟨hs, id, ht⟩ := hwaits
      rw [hqueue, List.append_nil] at hmem
      exact hlead _ hmem t (h.id_eq ht hs ▸ ht) hs
  | cons e left ih =>
      obtain ⟨x, id⟩ := e
      obtain ⟨ks'', hpop, hnone, hks''⟩ := hks.popMin
      have hread : ks''.answer (.readHash (l.taskKey id))
          = (.fields (ks.hash (l.taskKey id)), ks'') := by rw [answer, hks''.hash]
      by_cases hwaits : ∃ t, ks.task? l id = some t ∧ t.status = .pending
      · obtain ⟨t, ht, hs⟩ := hwaits
        obtain rfl := h.id_eq ht hs
        have hx : x = t.createdAt := by
          have hscore := (h.inStep l.pendingKey).mem_iff x t.id |>.mp (by rw [hqueue]; simp)
          rw [h.score? ht hs] at hscore
          exact (Option.some.inj hscore).symm
        subst hx
        have hwaits : Waits l ks t := ⟨hs, t.id, ht⟩
        have hends : Stage.Ends l now (Dequeued l worker now ks) 3 (.popping worker) ks' := by
          refine .step rfl hpop (.step rfl hread ?_)
          simp only [Stage.resume, claimRead_of_pending ht hs]
          exact .step rfl (h.answer_transition hks'' ht hs)
            (.finished (.leased hwaits (fun t' => h.le_of_waits hqueue hlead) hqueue hlead
              (hks''.lease hnone ht hs)))
        exact hends.mono (by simp; omega) fun _ _ hQ => hQ
      · have hidle : ∀ t, ks.task? l id = some t → t.status ≠ .pending :=
          fun t ht hs => hwaits ⟨t, ht, hs⟩
        have hends : Stage.Ends l now (Dequeued l worker now ks) (3 * left.length + 3)
            (.popping worker) ks' := by
          refine .step rfl hpop (.step rfl hread ?_)
          simp only [Stage.resume, claimRead_of_ne_pending hidle]
          have hqueue' : (ks.scoredSet l.pendingKey).ordered = (lead ++ [(x, id)]) ++ left := by
            simpa using hqueue
          exact ih hks'' hqueue' (List.forall_mem_append.mpr ⟨hlead, by simpa using hidle⟩)
        exact hends.mono (by simp; omega) fun _ _ hQ => hQ

end LeaseQueue.Keyspace
