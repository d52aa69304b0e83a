/-
Leasing from stores with damage.

* `TaskStore.Waits`, `TaskStore.Queued`: the waiting tasks that can be read, and the stores in which
  each of them is as it was stored; whatever else such a store holds may be missing, damaged or out
  of date;
* `TaskStore.Leases`, `TaskStore.Clears`: what a call that leases a task, or finds none, may change;
* `TaskStore.dequeue_queued`: a call leases the least of the waiting tasks that can be read, and
  finds none only if there is none.

The two kinds of stores treat damage differently: a queue drops the entries that it passes over, a
table keeps its rows.
-/
import LeaseQueue.Proofs.Damage.Keyspace
import LeaseQueue.Proofs.Damage.Table
import LeaseQueue.Store.TaskStore

namespace LeaseQueue

namespace KeyspaceStore

/-- Without faults a call leases the first task that waits in the queue. -/
lemma dequeued (s : KeyspaceStore) (h : s.shared.keyspace.Queued s.layout)
    (hplan : s.shared.plan = .none) (now : Timestamp) (worker : String) :
    ∃ found shared, Storage.dequeue s now worker = (.ok found, ⟨s.layout, shared⟩) ∧
      shared.plan = .none ∧
      s.shared.keyspace.Dequeued s.layout worker now (.ok (.found found)) shared.keyspace := by
  have hidle : s.shared.keyspace.Idle s.layout [] := fun _ he => by cases he
  have hends : Stage.Ends s.layout now (s.shared.keyspace.Dequeued s.layout worker now) _
      (Stage.start "" now (.dequeue worker)) s.shared.keyspace :=
    h.ends_popping worker now (.refl h.inStep) (List.nil_append _).symm hidle
  obtain ⟨hdequeued, hplan'⟩ := Stage.Ends.run_start hplan hends
  have hcall : Storage.dequeue s now worker
      = s.call "" now (.dequeue worker) Outcome.asFound := rfl
  rw [hcall, CallsOf.call]
  generalize (Stage.start "" now (.dequeue worker)).run s.layout now s.shared = p at *
  obtain ⟨r, shared⟩ := p
  have hfound : ∃ found, r = .ok (.found found) := by
    cases hdequeued with
    | leased => exact ⟨_, rfl⟩
    | idle => exact ⟨_, rfl⟩
  obtain ⟨found, rfl⟩ := hfound
  exact ⟨found, shared, rfl, hplan', hdequeued⟩

end KeyspaceStore

namespace TaskStore

/-- A task that waits and can be read. -/
def Waits : TaskStore → Task → Prop
  | table tb, t => tb.Waits t
  | keyspace s, t => s.shared.keyspace.Waits s.layout t

/-- No faults are to come, and every task that waits and can be read is as it was stored. -/
def Queued : TaskStore → Prop
  | table tb => tb.Queued
  | keyspace s => s.shared.keyspace.Queued s.layout ∧ s.shared.plan = .none

/-- A task is leased for one more attempt and nothing else changes, except that a queue loses the
entries before that of the task. For none of those a task waits. -/
inductive Leases (worker : String) (now : Timestamp) (t : Task) : TaskStore → TaskStore → Prop
  | table {tb tb' : Table} (leases : Table.Leases worker now t tb tb') :
      Leases worker now t (table tb) (table tb')
  | keyspace {s : KeyspaceStore} {shared : MemoryKeyspace} {lead left : List (Int64 × String)}
      (queue : (s.shared.keyspace.scoredSet s.layout.pendingKey).ordered
        = lead ++ (t.createdAt, t.id) :: left)
      (idle : s.shared.keyspace.Idle s.layout lead)
      (leases : Keyspace.Leases s.layout worker now t left s.shared.keyspace shared.keyspace)
      (attempts : (t.claim worker now).attempts.toNat = t.attempts.toNat + 1)
      (plan : shared.plan = .none) :
      Leases worker now t (keyspace s) (keyspace ⟨s.layout, shared⟩)

/-- Nothing changes, except that a queue loses all its entries. -/
inductive Clears : TaskStore → TaskStore → Prop
  | table {tb : Table} : Clears (table tb) (table tb)
  | keyspace {s : KeyspaceStore} {shared : MemoryKeyspace}
      (discards : Keyspace.Discards s.layout [] s.shared.keyspace shared.keyspace)
      (plan : shared.plan = .none) : Clears (keyspace s) (keyspace ⟨s.layout, shared⟩)

/-- A call leases the least of the tasks that wait and can be read, and finds none only if there is
none. It changes nothing else, except that a queue loses the entries that it passes over. -/
theorem dequeue_queued (s : TaskStore) (h : s.Queued) (now : Timestamp) (worker : String) :
    (∃ t, s.Waits t ∧ (∀ t', s.Waits t' → Task.le t t' = true) ∧
      (Storage.dequeue s now worker).1 = .ok (some (t.claim worker now)) ∧
      s.Leases worker now t (Storage.dequeue s now worker).2) ∨
    (∀ t, ¬ s.Waits t) ∧ (Storage.dequeue s now worker).1 = .ok none ∧
      s.Clears (Storage.dequeue s now worker).2 := by
  cases s with
  | table tb =>
      obtain ⟨t, hwaits, hleast, hresult, hleases⟩ | ⟨hnone, hresult⟩ :=
        Table.Queued.dequeue h worker now
      · exact .inl ⟨t, hwaits, hleast, hresult, .table hleases⟩
      · have hcall : Storage.dequeue (table tb) now worker = (.ok none, table tb) := by
          change (table tb).via (Table.dequeue · now worker) _ = _
          rw [via, hresult]
        exact .inr ⟨hnone, by rw [hcall], hcall ▸ .table⟩
  | keyspace s =>
      obtain ⟨hqueued, hplan⟩ := h
      obtain ⟨found, shared, hresult, hplan', hdequeued⟩ :=
        s.dequeued hqueued hplan now worker
      have hcall : Storage.dequeue (keyspace s) now worker
          = (.ok found, keyspace ⟨s.layout, shared⟩) := by
        change (keyspace s).via _ (Storage.dequeue · now worker) = _
        rw [via, hresult]
      rw [hcall]
      cases hdequeued with
      | @leased t _ _ _ hwaits hleast hqueue hidle hleases =>
          have hattempts : (t.claim worker now).attempts.toNat = t.attempts.toNat + 1 := by
            obtain ⟨hs, id, ht⟩ := hwaits
            have hlt := hqueued.attempts ht hs
            rw [Task.claim, UInt32.toNat_add, UInt32.toNat_one, Nat.mod_eq_of_lt hlt]
          exact .inl ⟨t, hwaits, hleast, rfl, .keyspace hqueue hidle hleases hattempts hplan'⟩
      | idle hnone hdiscards => exact .inr ⟨hnone, rfl, .keyspace hdiscards hplan'⟩

/-! ### Damaged stores -/

/-- A waiting task with its time of creation. -/
def waitingTask (id : String) (createdAt : Timestamp) : Task where
  id
  type := "mail"
  payload := ""
  metadata := .empty
  status := .pending
  createdAt
  updatedAt := createdAt
  result := none
  worker := none
  attempts := 0

/-- Two tasks that wait, a hash without fields but one, one with tags that are no JSON, one with a
status that does not exist, and a finished task. -/
def damagedHashes : List (String × List (String × String)) :=
  [("b", Layout.fields (waitingTask "b" 7)), ("a", Layout.fields (waitingTask "a" 12)),
   ("torn", [("status", "PENDING")]),
   ("garbled", Layout.fields (waitingTask "garbled" 5) ++ [("metadata", "[1")]),
   ("odd", Layout.fields (waitingTask "odd" 9) ++ [("status", "LOST")]),
   ("done", Layout.fields (waitingTask "done" 4) ++ [("status", "COMPLETED")])]

/-- A queue with entries for all of these and for a task that is not there. -/
def damagedQueue : List (String × Int64) :=
  [("gone", -5), ("torn", 3), ("done", 4), ("garbled", 5), ("b", 7), ("odd", 9), ("a", 12)]

/-- The hashes and the queue. -/
def damagedKeyspace (l : Layout) : Keyspace :=
  (damagedHashes.map (fun e => WriteOp.hashSet (l.taskKey e.1) e.2) ++
    damagedQueue.map fun e => WriteOp.scoredAdd l.pendingKey e.1 e.2).foldl Keyspace.apply .empty

/-- A table with rows of the same kinds. -/
def damagedTable : Table where
  rows :=
    [{ Row.ofTask (waitingTask "garbled" 5) with metadata := .text "[1" },
     { Row.ofTask (waitingTask "odd" 6) with status := .text "LOST" },
     Row.ofTask (waitingTask "a" 12), Row.ofTask (waitingTask "b" 7),
     { Row.ofTask (waitingTask "done" 4) with status := .text "COMPLETED" }]

/-- Only the two tasks wait. -/
lemma waits_damagedKeyspace {id : String} {t : Task}
    (ht : (damagedKeyspace ⟨"q"⟩).task? ⟨"q"⟩ id = some t) (hs : t.status = .pending) :
    id = "a" ∧ t = waitingTask "a" 12 ∨ id = "b" ∧ t = waitingTask "b" 7 := by
  have hids : id ∈ damagedHashes.map (·.1) := by
    by_contra hid
    have hempty : (damagedKeyspace ⟨"q"⟩).hash (Layout.taskKey ⟨"q"⟩ id) = .empty := by
      refine Keyspace.hash_foldl .empty fun op hop => ?_
      rcases List.mem_append.mp hop with hop | hop <;> obtain ⟨e, he, rfl⟩ := List.mem_map.mp hop
      · have hne : e.1 ≠ id := fun heq => hid (heq ▸ List.mem_map_of_mem he)
        simpa [WriteOp.hashKey?, Layout.taskKey_inj] using hne
      · simp [WriteOp.hashKey?]
    rw [Keyspace.task?_of_hash_eq_empty hempty] at ht
    cases ht
  have hevery : ∀ id ∈ damagedHashes.map (·.1), ∀ t ∈ (damagedKeyspace ⟨"q"⟩).task? ⟨"q"⟩ id,
      t.status = .pending →
        id = "a" ∧ t = waitingTask "a" 12 ∨ id = "b" ∧ t = waitingTask "b" 7 := by
    decide +kernel
  exact hevery id hids t ht hs

lemma queued_damagedKeyspace : (damagedKeyspace ⟨"q"⟩).Queued ⟨"q"⟩ where
  inStep := Keyspace.inStep_empty.foldl _
  id_eq ht hs := by
    rcases waits_damagedKeyspace ht hs with ⟨rfl, rfl⟩ | ⟨rfl, rfl⟩ <;> rfl
  updatedAt ht hs := by
    rcases waits_damagedKeyspace ht hs with ⟨rfl, rfl⟩ | ⟨rfl, rfl⟩ <;> decide +kernel
  attempts ht hs := by
    rcases waits_damagedKeyspace ht hs with ⟨rfl, rfl⟩ | ⟨rfl, rfl⟩ <;> decide
  score? ht hs := by
    rcases waits_damagedKeyspace ht hs with ⟨rfl, rfl⟩ | ⟨rfl, rfl⟩ <;> decide +kernel

lemma queued_damagedTable : damagedTable.Queued where
  distinct := by decide +kernel
  reads r hr _ := by
    simp only [damagedTable, List.mem_cons, List.not_mem_nil, or_false] at hr
    rcases hr with rfl | rfl | rfl | rfl | rfl <;> exact ⟨_, rfl⟩

lemma waits_damagedTable {t : Task} (h : damagedTable.Waits t) :
    t = waitingTask "a" 12 ∨ t = waitingTask "b" 7 := by
  obtain ⟨hs, r, hr, ht⟩ := h
  have hevery : ∀ r ∈ damagedTable.rows, ∀ t ∈ r.decode.toOption, t.status = .pending →
      t = waitingTask "a" 12 ∨ t = waitingTask "b" 7 := by decide +kernel
  exact hevery r hr t (by rw [ht]; rfl) hs

/-- Of the two tasks the second is leased. -/
lemma leased_of_waits {s : TaskStore} {P : Task → Prop} {Q : Prop}
    (hwaits : ∀ t, s.Waits t → t = waitingTask "a" 12 ∨ t = waitingTask "b" 7)
    (hb : s.Waits (waitingTask "b" 7))
    (h : (∃ t, s.Waits t ∧ (∀ t', s.Waits t' → Task.le t t' = true) ∧ P t) ∨
      (∀ t, ¬ s.Waits t) ∧ Q) : P (waitingTask "b" 7) := by
  obtain ⟨t, ht, hleast, hP⟩ | ⟨hnone, -⟩ := h
  · rcases hwaits t ht with rfl | rfl
    · exact absurd (hleast _ hb) (by decide)
    · exact hP
  · exact absurd hb (hnone _)

/-- In both stores the first task that waits is leased, whatever comes before it. -/
theorem dequeue_damagedStores :
    let queue : TaskStore := keyspace ⟨⟨"q"⟩, ⟨damagedKeyspace ⟨"q"⟩, .none, 0⟩⟩
    let rows : TaskStore := table damagedTable
    (queue.Queued ∧
      (Storage.dequeue queue 20 "w").1 = .ok (some ((waitingTask "b" 7).claim "w" 20)) ∧
      queue.Leases "w" 20 (waitingTask "b" 7) (Storage.dequeue queue 20 "w").2) ∧
    rows.Queued ∧
      (Storage.dequeue rows 20 "w").1 = .ok (some ((waitingTask "b" 7).claim "w" 20)) ∧
      rows.Leases "w" 20 (waitingTask "b" 7) (Storage.dequeue rows 20 "w").2 := by
  intro queue rows
  have hqueue : queue.Queued := ⟨queued_damagedKeyspace, rfl⟩
  have hrows : rows.Queued := queued_damagedTable
  have hb : queue.Waits (waitingTask "b" 7) := ⟨rfl, "b", by decide +kernel⟩
  have hb' : rows.Waits (waitingTask "b" 7) :=
    ⟨rfl, Row.ofTask (waitingTask "b" 7), by decide, Row.decode_ofTask _⟩
  have hwaits : ∀ t, queue.Waits t → t = waitingTask "a" 12 ∨ t = waitingTask "b" 7 :=
    fun t ⟨hs, _, ht⟩ => (waits_damagedKeyspace ht hs).imp And.right And.right
  have hwaits' : ∀ t, rows.Waits t → t = waitingTask "a" 12 ∨ t = waitingTask "b" 7 :=
    fun _ => waits_damagedTable
  exact ⟨⟨hqueue, leased_of_waits hwaits hb (dequeue_queued queue hqueue 20 "w")⟩, hrows,
    leased_of_waits hwaits' hb' (dequeue_queued rows hrows 20 "w")⟩

end TaskStore

end LeaseQueue
