/-
Task stores over a keyspace.

* `CallsOf`: a store whose calls are run as stages over something that answers requests;
* `FaultPlan`: what goes wrong with the coming reads and commits, and which foreign batches slip in
  before a commit;
* `MemoryKeyspace`: a keyspace in memory under such a plan; with `FaultPlan.none` every request
  succeeds;
* `KeyspaceStore`: the task store over it.
-/
import LeaseQueue.Keyspace.Schedule
import LeaseQueue.Keyspace.Stage

namespace LeaseQueue

/-! ### Calls as stages -/

namespace Outcome

/-- The task of an outcome that is one. -/
def asTask : Outcome → Except StoreError Task
  | task t => .ok t
  | _ => .error Stage.strayReply

/-- The optional task of an outcome that is one. -/
def asFound : Outcome → Except StoreError (Option Task)
  | found t => .ok t
  | _ => .error Stage.strayReply

/-- The tasks of an outcome that are some. -/
def asTasks : Outcome → Except StoreError (List Task)
  | tasks l => .ok l
  | _ => .error Stage.strayReply

/-- The report of an outcome that is one. -/
def asSwept : Outcome → Except StoreError SweepReport
  | swept r => .ok r
  | _ => .error Stage.strayReply

end Outcome

/-- A task layout over something that answers requests. -/
structure CallsOf (σ : Type) where
  layout : Layout
  shared : σ

namespace CallsOf

variable {σ : Type} [Answers σ]

/-- Run a call from its first stage and take its result apart. -/
def call {α : Type} (s : CallsOf σ) (id : String) (now : Timestamp) (c : Call)
    (take : Outcome → Except StoreError α) : Except StoreError α × CallsOf σ :=
  let (r, shared) := (Stage.start id now c).run s.layout now s.shared
  (r.bind take, { s with shared })

/-- The seven calls; those that create no task need no id, those that ignore the time none. -/
instance : Storage (CallsOf σ) where
  backendName _ := "redis"
  enqueue s id now type payload metadata :=
    s.call id now (.enqueue type payload metadata) Outcome.asTask
  dequeue s now worker := s.call "" now (.dequeue worker) Outcome.asFound
  ack s now id success result := s.call "" now (.ack id success result) Outcome.asTask
  list s status := s.call "" 0 (.list status) Outcome.asTasks
  get s id := s.call "" 0 (.get id) Outcome.asFound
  heartbeat s now id := s.call "" now (.heartbeat id) Outcome.asTask
  recover s now maxAge maxAttempts :=
    s.call "" now (.recover maxAge maxAttempts) Outcome.asSwept

end CallsOf

/-! ### A keyspace in memory -/

/-- What happens to one commit. -/
inductive CommitFate where
  /-- The guards decide. -/
  | guarded
  /-- The connection breaks and nothing is written. -/
  | broken
  /-- The batch is refused and nothing is written. -/
  | refused
deriving DecidableEq, Repr

/-- What goes wrong with coming requests. Requests beyond the plan go through. -/
structure FaultPlan where
  /-- For each coming read of a hash, whether the connection breaks. -/
  brokenReads : Schedule Bool
  /-- What happens to each coming commit. -/
  commits : Schedule CommitFate
  /-- Foreign batches; one is applied before each commit whose guards decide. -/
  races : List Batch
deriving DecidableEq, Repr

/-- Nothing goes wrong. -/
def FaultPlan.none : FaultPlan := ⟨[], [], []⟩

/-- A keyspace in memory under a plan of faults. -/
structure MemoryKeyspace where
  keyspace : Keyspace
  plan : FaultPlan
  /-- How many commits have been asked for. -/
  commitCalls : Nat
deriving DecidableEq, Repr

namespace MemoryKeyspace

/-- No data and no faults. -/
def empty : MemoryKeyspace := ⟨.empty, .none, 0⟩

/-- A broken connection. -/
def connectionReset : StoreError := .io "connection reset"

/-- A commit whose guards decide, after the next foreign batch. -/
def commitGuarded (m : MemoryKeyspace) (batch : Batch) :
    Except StoreError Reply × MemoryKeyspace :=
  let (keyspace, races) := match m.plan.races with
    | [] => (m.keyspace, [])
    | race :: rest => ((m.keyspace.commit race).2, rest)
  let (applied, keyspace) := keyspace.commit batch
  (.ok (.committed applied), { m with keyspace, plan := { m.plan with races } })

/-- A commit under the plan. -/
def commit (m : MemoryKeyspace) (batch : Batch) : Except StoreError Reply × MemoryKeyspace :=
  let m := { m with commitCalls := m.commitCalls + 1 }
  match m.plan.commits.next? with
  | none => m.commitGuarded batch
  | some (.guarded, rest) =>
    { m with plan := { m.plan with commits := rest } }.commitGuarded batch
  | some (.broken, rest) =>
    (.error connectionReset, { m with plan := { m.plan with commits := rest } })
  | some (.refused, rest) =>
    (.ok (.committed false), { m with plan := { m.plan with commits := rest } })

/-- A read of a hash under the plan. -/
def readHash (m : MemoryKeyspace) (key : String) : Except StoreError Reply × MemoryKeyspace :=
  match m.plan.brokenReads.next? with
  | none => (.ok (.fields (m.keyspace.hash key)), m)
  | some (broken, rest) =>
    (if broken then .error connectionReset else .ok (.fields (m.keyspace.hash key)),
      { m with plan := { m.plan with brokenReads := rest } })

instance : Answers MemoryKeyspace where
  answer m
    | .readHash key => m.readHash key
    | .commit batch => m.commit batch
    | q => let (a, keyspace) := m.keyspace.answer q; (.ok a, { m with keyspace })
  extent m := m.keyspace.extent + m.plan.races.foldr (fun b n => b.ops.length + n) 0

/-- Coming faults: so many broken reads, then so many broken and so many refused commits. The
count of commits starts anew; foreign batches stay. -/
def planFaults (m : MemoryKeyspace) (reads broken refused : Nat) : MemoryKeyspace :=
  { m with
    plan := { m.plan with
              brokenReads := [(reads, true)]
              commits := [(broken, .broken), (refused, .refused)] }
    commitCalls := 0 }

/-- Let a foreign batch slip in before a coming commit. -/
def planRace (m : MemoryKeyspace) (batch : Batch) : MemoryKeyspace :=
  { m with plan := { m.plan with races := m.plan.races ++ [batch] } }

end MemoryKeyspace

/-- The task store over a keyspace in memory. -/
abbrev KeyspaceStore := CallsOf MemoryKeyspace

/-- A store without tasks. -/
def KeyspaceStore.empty (name : String) : KeyspaceStore := ⟨⟨name⟩, .empty⟩

end LeaseQueue
