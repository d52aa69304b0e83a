/-
Tasks and their transitions.

* `Task`: one stored task;
* `Task.new`: a waiting task, refused when its type is blank;
* `Task.claim`, `finish`, `requeue`, `exhaust`, `touch`: the transitions, each at a given time;
* `Task.isOverdue`, `Task.attemptsExhausted`: what the recovery of expired leases asks;
* `Task.le`: queue order, by creation time and then id.

A transition changes status, update time, result, worker and attempts only; `Task.SameIdentity`
relates tasks that agree in everything else.
-/
import LeaseQueue.Task.Error
import LeaseQueue.SortedMap
import LeaseQueue.Text.Blank

namespace LeaseQueue

/-- A point in time, in milliseconds since the start of 1970. -/
abbrev Timestamp := Int64

/-- The time `now - age`, held within 64 bits: leases refreshed before it are expired. -/
def Timestamp.before (now age : Int64) : Timestamp :=
  let d := now.toInt - age.toInt
  if d < Int64.minValue.toInt then Int64.minValue
  else if Int64.maxValue.toInt < d then Int64.maxValue
  else Int64.ofInt d

/-- Tags given by the producer of a task. -/
abbrev Metadata := SortedMap String

/-- One task as it is stored. -/
structure Task where
  /-- Assigned when the task is enqueued, never changed. -/
  id : String
  /-- The producer's category. -/
  type : String
  /-- What the worker receives, in the producer's encoding. -/
  payload : String
  metadata : Metadata
  status : Status
  createdAt : Timestamp
  /-- Refreshed by every transition. -/
  updatedAt : Timestamp
  /-- Set when the task is finished. -/
  result : Option String
  /-- The owner of the lease. -/
  worker : Option String
  /-- How often the task has been leased. -/
  attempts : UInt32
deriving DecidableEq, Repr

namespace Task

/-- The result of a task whose last lease expired. -/
def attemptsExceeded : String := "maximum attempts exceeded"

/-- A new waiting task. -/
def new (id : String) (now : Timestamp) (type payload : String) (metadata : Metadata) :
    Except TaskError Task :=
  if Text.isBlank type then .error (.invalidArgument "task type must not be empty")
  else
    .ok { id, type, payload, metadata, status := .pending, createdAt := now, updatedAt := now,
          result := none, worker := none, attempts := 0 }

/-! ### Transitions -/

/-- Lease the task to a worker. -/
def claim (t : Task) (worker : String) (now : Timestamp) : Task :=
  { t with status := .inProgress, worker := some worker, attempts := t.attempts + 1,
           updatedAt := now }

/-- Finish the task. An empty result counts as none; a finished task is left alone. -/
def finish (t : Task) (success : Bool) (result : Option String) (now : Timestamp) :
    Except TaskError Task :=
  if t.status.isTerminal then .error (.invalidState t.id t.status)
  else
    .ok { t with status := if success then .completed else .failed,
                 result := result.filter (· ≠ ""), worker := none, updatedAt := now }

/-- Put an expired lease back into the queue; the attempts stay. -/
def requeue (t : Task) (now : Timestamp) : Task :=
  { t with status := .pending, worker := none, updatedAt := now }

/-- Fail a task whose lease expired in its last attempt. -/
def exhaust (t : Task) (now : Timestamp) : Task :=
  { t with status := .failed, result := some attemptsExceeded, worker := none, updatedAt := now }

/-- Refresh the update time alone. -/
def touch (t : Task) (now : Timestamp) : Task := { t with updatedAt := now }

/-- Whether the task holds a lease last refreshed before a point in time. -/
def isOverdue (t : Task) (threshold : Timestamp) : Bool :=
  t.status = .inProgress && t.updatedAt < threshold

/-- Whether an expired lease was the last one allowed. -/
def attemptsExhausted (t : Task) (maxAttempts : UInt32) : Bool := maxAttempts ≤ t.attempts

/-- End an expired lease: fail the task after its last attempt, requeue it before. -/
def expire (t : Task) (maxAttempts : UInt32) (now : Timestamp) : Task :=
  if t.attemptsExhausted maxAttempts then t.exhaust now else t.requeue now

/-! ### Queue order -/

/-- Queue order: earlier creation first, the lesser id among equals. -/
def le (a b : Task) : Bool :=
  a.createdAt < b.createdAt || (a.createdAt == b.createdAt && a.id ≤ b.id)

/-- Tasks in queue order; tasks equal in that order keep their places. -/
def sort (l : List Task) : List Task := l.mergeSort le

/-! ### What transitions leave alone -/

/-- Agreement in id, type, payload, metadata and creation time. -/
def SameIdentity (a b : Task) : Prop :=
  a.id = b.id ∧ a.type = b.type ∧ a.payload = b.payload ∧ a.metadata = b.metadata ∧
    a.createdAt = b.createdAt

theorem sameIdentity_claim (t : Task) (w : String) (now : Timestamp) :
    SameIdentity (t.claim w now) t := ⟨rfl, rfl, rfl, rfl, rfl⟩

theorem sameIdentity_finish {t t' : Task} {success : Bool} {result : Option String}
    {now : Timestamp} (h : t.finish success result now = .ok t') : SameIdentity t' t := by
  unfold finish at h
  split at h
  · simp at h
  · obtain rfl := Except.ok.inj h
    exact ⟨rfl, rfl, rfl, rfl, rfl⟩

theorem sameIdentity_expire (t : Task) (maxAttempts : UInt32) (now : Timestamp) :
    SameIdentity (t.expire maxAttempts now) t := by
  unfold expire
  split <;> exact ⟨rfl, rfl, rfl, rfl, rfl⟩

theorem sameIdentity_touch (t : Task) (now : Timestamp) : SameIdentity (t.touch now) t :=
  ⟨rfl, rfl, rfl, rfl, rfl⟩

end Task

end LeaseQueue
