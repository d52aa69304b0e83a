/-
The queue as its callers see it: storage calls with counters and an audit trail.

* `Service`: a task store with settings and sinks;
* `Service.enqueue`, `dequeue`, `ack`, `list`, `get`, `heartbeat`, `recover`: the calls. Counters
  and events follow a call that succeeds, and nothing they do can make it fail. `dequeue` first ends
  the leases that have expired;
* `ServiceCall`, `Service.perform`: calls as data, and one of them made.
-/
import LeaseQueue.Broker.Audit
import LeaseQueue.Broker.Metrics
import LeaseQueue.Broker.Settings
import LeaseQueue.Store.Storage

namespace LeaseQueue

/-- A task store with settings and sinks. -/
structure Service (σ : Type) where
  store : σ
  settings : QueueSettings
  metrics : MetricsSink
  audit : AuditSink

namespace Service

variable {σ : Type}

/-! ### Sinks -/

/-- Add to a counter. -/
def count (s : Service σ) (counter : Counter) (amount : Nat) : Service σ :=
  { s with metrics := s.metrics.increment counter (UInt64.ofNat amount) }

/-- Record an event. -/
def note (s : Service σ) (now : Timestamp) (kind : AuditKind) (subject : String)
    (details : List (String × String)) : Service σ :=
  { s with audit := s.audit.record ⟨kind.name, subject, .ofList details, now⟩ }

/-- The subject of events that concern the queue rather than a worker. -/
def queueSubject : String := "queue"

/-- The subject of an expired lease without a known owner. -/
def unknownSubject : String := "unknown"

/-- The id of a task as a detail. -/
def idDetail (t : Task) : String × String := ("task_id", t.id)

/-- The status of a task as a detail. -/
def statusDetail (t : Task) : String × String := ("status", t.status.name)

/-- The attempts of a task as a detail. -/
def attemptsDetail (t : Task) : String × String := ("attempts", Decimal.text t.attempts.toNat)

/-- Count and record the requeued tasks of a sweep. -/
def noteRequeued (s : Service σ) (now : Timestamp) (r : SweepReport) : Service σ :=
  if r.requeued.isEmpty then s
  else
    r.requeued.foldl
      (fun s t => s.note now .requeued queueSubject [idDetail t, attemptsDetail t])
      (s.count .retried r.requeued.length)

/-- Count and record the tasks that a sweep failed. -/
def noteFailed (s : Service σ) (now : Timestamp) (r : SweepReport) : Service σ :=
  if r.failed.isEmpty then s
  else
    r.failed.foldl
      (fun s t => s.note now .failedTimeout ((r.previousWorker t.id).getD unknownSubject)
        [idDetail t, attemptsDetail t])
      (s.count .failedTimeout r.failed.length)

/-! ### Calls -/

variable [Storage σ]

/-- The outcome of a storage call for the callers of the service. -/
def lift {α : Type} (s : Service σ) (r : Except StoreError α × σ) :
    Except TaskError α × Service σ :=
  (r.1.mapError StoreError.toTaskError, { s with store := r.2 })

/-- Follow up a call that succeeds. -/
def whenOk {α : Type} (r : Except TaskError α × Service σ) (f : α → Service σ → Service σ) :
    Except TaskError α × Service σ :=
  match r with
  | (.ok a, s) => (.ok a, f a s)
  | (.error e, s) => (.error e, s)

/-- Store a new waiting task. -/
def enqueue (s : Service σ) (id : String) (now : Timestamp) (type payload : String)
    (metadata : Metadata) : Except TaskError Task × Service σ :=
  whenOk (s.lift (Storage.enqueue s.store id now type payload metadata)) fun t s =>
    (s.count .enqueued 1).note now .enqueued queueSubject [idDetail t]

/-- End the leases that have expired. -/
def recover (s : Service σ) (now : Timestamp) : Except TaskError SweepReport × Service σ :=
  whenOk
    (s.lift (Storage.recover s.store now s.settings.visibilityTimeout s.settings.maxAttempts))
    fun r s => (s.noteRequeued now r).noteFailed now r

/-- Lease the first waiting task, after the sweep. -/
def claim (s : Service σ) (now : Timestamp) (worker : String) :
    Except TaskError (Option Task) × Service σ :=
  whenOk (s.lift (Storage.dequeue s.store now worker)) fun
    | none, s => s
    | some t, s => (s.count .dispatched 1).note now .dequeued worker [idDetail t]

/-- Lease the first waiting task to a worker, whose name must not be blank. -/
def dequeue (s : Service σ) (now : Timestamp) (worker : String) :
    Except TaskError (Option Task) × Service σ :=
  if Text.isBlank worker then (.error (.invalidArgument "worker_id must not be empty"), s)
  else
    match s.recover now with
    | (.error e, s) => (.error e, s)
    | (.ok _, s) => s.claim now worker

/-- Finish a task. -/
def ack (s : Service σ) (now : Timestamp) (id : String) (success : Bool)
    (result : Option String) : Except TaskError Task × Service σ :=
  whenOk (s.lift (Storage.ack s.store now id success result)) fun t s =>
    (s.count (if success then .completed else .failed) 1).note now .acknowledged queueSubject
      [idDetail t, statusDetail t]

/-- All tasks, or those of the status with a name. -/
def list (s : Service σ) (status : String) : Except TaskError (List Task) × Service σ :=
  if status = "" then s.lift (Storage.list s.store none)
  else
    match Status.parse status with
    | .error e => (.error e, s)
    | .ok status => s.lift (Storage.list s.store (some status))

/-- The task with an id, which has to exist. -/
def get (s : Service σ) (id : String) : Except TaskError Task × Service σ :=
  match s.lift (Storage.get s.store id) with
  | (.error e, s) => (.error e, s)
  | (.ok none, s) => (.error (.notFound id), s)
  | (.ok (some t), s) => (.ok t, s)

/-- Refresh a lease. -/
def heartbeat (s : Service σ) (now : Timestamp) (id : String) :
    Except TaskError Task × Service σ :=
  whenOk (s.lift (Storage.heartbeat s.store now id)) fun t s =>
    s.note now .heartbeat queueSubject [idDetail t]

end Service

/-! ### Calls as data -/

/-- A call on the service. -/
inductive ServiceCall where
  | enqueue (type payload : String) (metadata : Metadata)
  | dequeue (worker : String)
  | ack (id : String) (success : Bool) (result : Option String)
  /-- The empty status is every status. -/
  | list (status : String)
  | get (id : String)
  | heartbeat (id : String)
  | recover
deriving DecidableEq, Repr

/-- The call on the service that does what a storage call does. A sweep takes its age and its number
of attempts from the settings. -/
def ServiceCall.ofCall : Call → ServiceCall
  | .enqueue type payload metadata => enqueue type payload metadata
  | .dequeue worker => dequeue worker
  | .ack id success result => ack id success result
  | .list status => list ((status.map Status.name).getD "")
  | .get id => get id
  | .heartbeat id => heartbeat id
  | .recover _ _ => recover

/-- One call given as data; `id` is the id of a task that the call may create. -/
def Service.perform {σ : Type} [Storage σ] (s : Service σ) (id : String) (now : Timestamp) :
    ServiceCall → Except TaskError Outcome × Service σ
  | .enqueue type payload metadata =>
    mapResult .task (s.enqueue id now type payload metadata)
  | .dequeue worker => mapResult .found (s.dequeue now worker)
  | .ack taskId success result => mapResult .task (s.ack now taskId success result)
  | .list status => mapResult .tasks (s.list status)
  | .get taskId => mapResult (fun t => .found (some t)) (s.get taskId)
  | .heartbeat taskId => mapResult .task (s.heartbeat now taskId)
  | .recover => mapResult .swept (s.recover now)

end LeaseQueue
