/-
What every task store offers.

* `Storage`: the seven calls on a store of type `σ`; a call takes the time, a new task also its
  id, and returns its result with the store after it;
* `Call`, `Outcome`: calls and results as data, so that whole histories can be compared;
* `Storage.perform`: one call given as data.
-/
import LeaseQueue.Task.SweepReport
import LeaseQueue.Store.Error

namespace LeaseQueue

/-- A task store. A failing call may still change the store. -/
class Storage (σ : Type) where
  /-- The kind of store. -/
  backendName : σ → String
  /-- Store a new waiting task under a fresh id. -/
  enqueue : σ → (id : String) → (now : Timestamp) → (type payload : String) → Metadata →
    Except StoreError Task × σ
  /-- Lease the first waiting task to a worker. -/
  dequeue : σ → (now : Timestamp) → (worker : String) → Except StoreError (Option Task) × σ
  /-- Finish a task. -/
  ack : σ → (now : Timestamp) → (id : String) → (success : Bool) → (result : Option String) →
    Except StoreError Task × σ
  /-- All tasks, or those of one status, in queue order. -/
  list : σ → Option Status → Except StoreError (List Task) × σ
  /-- The task with an id. -/
  get : σ → (id : String) → Except StoreError (Option Task) × σ
  /-- Refresh the lease of a task. -/
  heartbeat : σ → (now : Timestamp) → (id : String) → Except StoreError Task × σ
  /-- End the leases that were last refreshed more than `maxAge` milliseconds ago. -/
  recover : σ → (now : Timestamp) → (maxAge : Int64) → (maxAttempts : UInt32) →
    Except StoreError SweepReport × σ

/-- A storage call. -/
inductive Call where
  | enqueue (type payload : String) (metadata : Metadata)
  | dequeue (worker : String)
  | ack (id : String) (success : Bool) (result : Option String)
  | list (status : Option Status)
  | get (id : String)
  | heartbeat (id : String)
  | recover (maxAge : Int64) (maxAttempts : UInt32)
deriving DecidableEq, Repr

/-- What a storage call returns when it succeeds. -/
inductive Outcome where
  /-- The task as it is stored now. -/
  | task (t : Task)
  /-- A task, if there is one. -/
  | found (t : Option Task)
  /-- Tasks in queue order. -/
  | tasks (l : List Task)
  /-- What a sweep has done. -/
  | swept (r : SweepReport)
deriving DecidableEq, Repr

/-- Change the result of a call. -/
def mapResult {ε α β σ : Type} (f : α → β) : Except ε α × σ → Except ε β × σ
  | (r, s) => (r.map f, s)

/-- One call given as data; `id` is the id of a task that the call may create. -/
def Storage.perform {σ : Type} [Storage σ] (s : σ) (id : String) (now : Timestamp) :
    Call → Except StoreError Outcome × σ
  | .enqueue type payload metadata =>
    mapResult .task (enqueue s id now type payload metadata)
  | .dequeue worker => mapResult .found (dequeue s now worker)
  | .ack taskId success result => mapResult .task (ack s now taskId success result)
  | .list status => mapResult .tasks (list s status)
  | .get taskId => mapResult .found (get s taskId)
  | .heartbeat taskId => mapResult .task (heartbeat s now taskId)
  | .recover maxAge maxAttempts => mapResult .swept (recover s now maxAge maxAttempts)

end LeaseQueue
