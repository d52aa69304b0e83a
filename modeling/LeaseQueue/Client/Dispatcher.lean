/-
Dispatching envelopes to agents, near or remote.

* `Transport`: the three storage calls that dispatching needs;
* `Embedded`: a transport to a store of this process, `Remote` one to a broker;
* `Dispatcher.runTask`, `listTasks`, `acknowledge`: the calls, in terms of opened envelopes.
-/
import LeaseQueue.Client.Call
import LeaseQueue.Client.Envelope

namespace LeaseQueue

/-- The calls that dispatching needs. -/
class Transport (τ : Type) where
  enqueue : τ → (id : String) → (now : Timestamp) → (type payload : String) → Metadata →
    Except ClientError Task × τ
  list : τ → (now : Timestamp) → Option Status → Except ClientError (List Task) × τ
  ack : τ → (now : Timestamp) → (id : String) → (success : Bool) → (result : Option String) →
    Except ClientError Task × τ

/-! ### Transports -/

/-- A store of this process. -/
structure Embedded (σ : Type) where
  store : σ

namespace Embedded

variable {σ : Type} [Storage σ]

/-- The outcome of a storage call for a client. -/
def lift {α : Type} (r : Except StoreError α × σ) : Except ClientError α × Embedded σ :=
  (r.1.mapError .ofStoreError, ⟨r.2⟩)

instance : Transport (Embedded σ) where
  enqueue e id now type payload metadata :=
    lift (Storage.enqueue e.store id now type payload metadata)
  list e _ status := lift (Storage.list e.store status)
  ack e now id success result := lift (Storage.ack e.store now id success (result.filter (· ≠ "")))

end Embedded

namespace Remote

variable {σ : Type} [Storage σ]

/-- The complaint about an outcome of some other call, which `ClientCall.accept` never makes. -/
def strayOutcome : ClientError := .protocol "stray outcome"

/-- The task of an outcome that is one. -/
def takeTask : Outcome → Except ClientError Task
  | .task t => .ok t
  | _ => .error strayOutcome

/-- The tasks of an outcome that are some. -/
def takeTasks : Outcome → Except ClientError (List Task)
  | .tasks l => .ok l
  | _ => .error strayOutcome

/-- One call and its result taken apart. -/
def callWith {α : Type} (r : Remote σ) (id : String) (now : Timestamp) (c : ClientCall)
    (take : Outcome → Except ClientError α) : Except ClientError α × Remote σ :=
  let (outcome, r) := r.perform id now c
  (outcome.bind take, r)

instance : Transport (Remote σ) where
  enqueue r id now type payload metadata :=
    r.callWith id now (.enqueue type payload metadata) takeTask
  list r now status := r.callWith "" now (.list status) takeTasks
  ack r now id success result := r.callWith "" now (.ack id success result) takeTask

end Remote

/-! ### Dispatching -/

namespace Dispatcher

variable {τ : Type} [Transport τ]

/-- The type of all dispatched tasks. -/
def taskType : String := "orchestration"

/-- Ask an agent for an action. -/
def runTask (t : τ) (id : String) (now : Timestamp) (agent action : String)
    (payload : SortedMap Json) : Except ClientError DispatchedTask × τ :=
  let e := Envelope.structured agent action payload
  mapResult .ofTask (Transport.enqueue t id now taskType e.encode e.metadata)

/-- All dispatched tasks, or those of one status. -/
def listTasks (t : τ) (now : Timestamp) (status : Option Status) :
    Except ClientError (List DispatchedTask) × τ :=
  mapResult (List.map .ofTask) (Transport.list t now status)

/-- Finish a dispatched task. -/
def acknowledge (t : τ) (now : Timestamp) (id : String) (success : Bool)
    (result : Option String) : Except ClientError DispatchedTask × τ :=
  mapResult .ofTask (Transport.ack t now id success result)

end Dispatcher

end LeaseQueue
