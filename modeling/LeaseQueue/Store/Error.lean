/-
Why a storage call fails.

* `StoreError`: the causes, from the storage itself up to the request;
* `StoreError.message`: their wording;
* `StoreError.toTaskError`: the error that a service reports for them.
-/
import LeaseQueue.Task.Error

namespace LeaseQueue

/-- The wording for a JSON text that cannot be read. -/
def Json.malformed : String := "malformed JSON text"

/-- A failed storage call. -/
inductive StoreError where
  /-- The embedded database refuses. -/
  | database (reason : String)
  /-- The remote server refuses or cannot be reached. -/
  | server (reason : String)
  /-- Data cannot be moved. -/
  | io (reason : String)
  /-- Data cannot be put into text. -/
  | encoding (reason : String)
  /-- The request itself is refused. -/
  | task (error : TaskError)
  /-- A stored record cannot be read. -/
  | corrupted (key reason : String)
  /-- Too many concurrent changes of one task. -/
  | contention (id : String)
deriving DecidableEq, Repr

namespace StoreError

/-- The task asked for does not exist. -/
def notFound (id : String) : StoreError := .task (.notFound id)

/-- The name of the kind of an error. -/
def kind : StoreError → String
  | database _ => "SqliteError"
  | server _ => "RedisError"
  | io _ => "IoError"
  | encoding _ => "SerializationError"
  | task _ => "TaskError"
  | corrupted _ _ => "CorruptedRecord"
  | contention _ => "Contention"

/-- The wording of an error. -/
def message : StoreError → String
  | database reason => s!"SQLite error: {reason}"
  | server reason => s!"Redis error: {reason}"
  | io reason => s!"IO error: {reason}"
  | encoding reason => s!"Serialization error: {reason}"
  | task error => error.message
  | corrupted key reason => s!"Corrupted record {key}: {reason}"
  | contention id => s!"Gave up on task {id} after repeated concurrent modifications"

/-- The error that a service reports. -/
def toTaskError : StoreError → TaskError
  | task error => error
  | database reason => .unavailable reason
  | server reason => .unavailable reason
  | io reason => .unavailable reason
  | contention id => .unavailable s!"task {id} is under contention"
  | encoding reason => .corrupted reason
  | corrupted key reason => .corrupted (message (corrupted key reason))

end StoreError

end LeaseQueue
