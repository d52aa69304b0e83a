/-
The life of a task in four states.

* `Status`: waiting, leased, or finished in one of two ways;
* `Status.name`, `Status.ofName?`: the written form of a status and its reading, inverse to each
  other (`ofName?_name`, `name_of_ofName?`);
* `Status.isTerminal`: finished tasks, which accept no further change of status.
-/

namespace LeaseQueue

/-- Where a task stands. -/
inductive Status where
  /-- Waiting to be leased by a worker. -/
  | pending
  /-- Leased by a worker. -/
  | inProgress
  /-- Acknowledged as a success. -/
  | completed
  /-- Acknowledged as a failure, or out of attempts. -/
  | failed
deriving DecidableEq, Inhabited, Repr

namespace Status

/-- All four states. -/
def all : List Status := [pending, inProgress, completed, failed]

/-- The written form. -/
def name : Status → String
  | pending => "PENDING"
  | inProgress => "IN_PROGRESS"
  | completed => "COMPLETED"
  | failed => "FAILED"

/-- The written form in lower case, as it stands in the names of indexes. -/
def lowerName : Status → String
  | pending => "pending"
  | inProgress => "in_progress"
  | completed => "completed"
  | failed => "failed"

/-- The status with a given written form; letter case counts. -/
def ofName? : String → Option Status
  | "PENDING" => some pending
  | "IN_PROGRESS" => some inProgress
  | "COMPLETED" => some completed
  | "FAILED" => some failed
  | _ => none

/-- Finished tasks accept no further change of status. -/
def isTerminal : Status → Bool
  | completed | failed => true
  | pending | inProgress => false

@[simp] theorem ofName?_name (s : Status) : ofName? s.name = some s := by
  cases s <;> rfl

theorem name_of_ofName? {text : String} {s : Status} (h : ofName? text = some s) :
    s.name = text := by
  unfold ofName? at h
  split at h <;> first | (obtain rfl := Option.some.inj h; rfl) | simp at h

end Status

end LeaseQueue
