/-
How tasks are laid out over keys, under one namespace.

* `Layout`: the key of a task's hash, of the queue of waiting tasks, of the leases, and of the id
  sets for listing;
* `Layout.fields`, `Layout.decode`: a task as the fields of a hash and back; an absent result or
  worker is stored as the empty text;
* `Layout.guarded`: a batch that applies only while a task's status and update time are as they
  were read;
* `Layout.transition`: the writes that carry one task from a status to its new record, indexes
  included.

Waiting tasks are scored by creation time, leases by update time.
-/
import LeaseQueue.Keyspace.Basic
import LeaseQueue.Task.Json
import LeaseQueue.Store.Error

namespace LeaseQueue

/-- The keys of a task store under a namespace. -/
structure Layout where
  keyspaceName : String
deriving DecidableEq, Repr

namespace Layout

/-- The namespace used when none is configured. -/
def standardName : String := "task_queue"

/-! ### Keys -/

/-- The hash of a task. -/
def taskKey (l : Layout) (id : String) : String := s!"{l.keyspaceName}:task:{id}"

/-- Waiting tasks, scored by creation time. -/
def pendingKey (l : Layout) : String := s!"{l.keyspaceName}:pending"

/-- Leased tasks, scored by update time. -/
def inProgressKey (l : Layout) : String := s!"{l.keyspaceName}:in_progress"

/-- The ids of all tasks. -/
def allKey (l : Layout) : String := s!"{l.keyspaceName}:all"

/-- The ids of the tasks of one status. -/
def statusKey (l : Layout) (s : Status) : String := s!"{l.keyspaceName}:status:{s.lowerName}"

/-! ### Tasks as fields -/

/-- The fields that change after a task is stored. -/
def mutableFields (t : Task) : List (String × String) :=
  [("status", t.status.name), ("updated_at", Decimal.text t.updatedAt.toInt),
   ("result", t.result.getD ""), ("worker_id", t.worker.getD ""),
   ("attempts", Decimal.text t.attempts.toNat)]

/-- All fields. -/
def fields (t : Task) : List (String × String) :=
  [("id", t.id), ("type", t.type), ("payload", t.payload),
   ("metadata", (Json.ofTexts t.metadata).write),
   ("created_at", Decimal.text t.createdAt.toInt)] ++ mutableFields t

/-- None for the empty text. -/
def presentText (s : String) : Option String := if s = "" then none else some s

/-- A field that has to be there. -/
def requiredField (key : String) (hash : SortedMap String) (name : String) :
    Except StoreError String :=
  match hash.get? name with
  | some v => .ok v
  | none => .error (.corrupted key s!"missing field {name}")

/-- A value read from the text of a field. -/
def readField {α : Type} (key name text : String) (value : Option α) : Except StoreError α :=
  match value with
  | some v => .ok v
  | none => .error (.corrupted key s!"invalid {name} '{text}'")

/-- The tags written as a JSON object of strings. -/
def readMetadata (key text : String) : Except StoreError Metadata :=
  match (Json.parse? text).bind Json.asTexts? with
  | some m => .ok m
  | none => .error (.corrupted key Json.malformed)

/-- The status with a written name. -/
def readStatus (key text : String) : Except StoreError Status :=
  match Status.ofName? text with
  | some s => .ok s
  | none => .error (.corrupted key s!"unknown status {text}")

/-- The task stored in the hash of `key`. Missing fields are reported before unreadable ones. -/
def decode (key : String) (hash : SortedMap String) : Except StoreError Task := do
  let id ← requiredField key hash "id"
  let type ← requiredField key hash "type"
  let payload ← requiredField key hash "payload"
  let metadata ← requiredField key hash "metadata"
  let status ← requiredField key hash "status"
  let createdAt ← requiredField key hash "created_at"
  let updatedAt ← requiredField key hash "updated_at"
  let attempts := hash.getD "attempts" "0"
  let metadata ← readMetadata key metadata
  let status ← readStatus key status
  let createdAt ← readField key "created_at" createdAt (Decimal.int64? createdAt)
  let updatedAt ← readField key "updated_at" updatedAt (Decimal.int64? updatedAt)
  let attempts ← readField key "attempts" attempts (Decimal.uint32? attempts)
  return { id, type, payload, metadata, status, createdAt, updatedAt,
           result := presentText (hash.getD "result" ""),
           worker := presentText (hash.getD "worker_id" ""), attempts }

/-- The task in a hash that has been read; a hash without fields holds none. -/
def decode? (key : String) (hash : SortedMap String) : Except StoreError (Option Task) :=
  if hash.isEmpty then .ok none else (decode key hash).map some

/-! ### Batches -/

/-- The writes that store a new task. -/
def insertion (l : Layout) (t : Task) : Batch :=
  .ofOps
    [.hashSet (l.taskKey t.id) (fields t), .setAdd l.allKey t.id,
     .setAdd (l.statusKey .pending) t.id, .scoredAdd l.pendingKey t.id t.createdAt]

/-- The condition that a task is still as it was read. -/
def guarded (l : Layout) (read : Task) : Batch :=
  let key := l.taskKey read.id
  ⟨[⟨key, "status", read.status.name⟩,
    ⟨key, "updated_at", Decimal.text read.updatedAt.toInt⟩], []⟩

/-- The writes that replace a task of status `before` and keep the indexes in step. -/
def transitionOps (l : Layout) (before : Status) (t : Task) : List WriteOp :=
  let move :=
    if before = t.status then []
    else [.setRemove (l.statusKey before) t.id, .setAdd (l.statusKey t.status) t.id]
  let queues : List WriteOp := match t.status with
    | .pending =>
      [.scoredRemove l.inProgressKey t.id, .scoredAdd l.pendingKey t.id t.createdAt]
    | .inProgress =>
      [.scoredRemove l.pendingKey t.id, .scoredAdd l.inProgressKey t.id t.updatedAt]
    | .completed | .failed =>
      [.scoredRemove l.pendingKey t.id, .scoredRemove l.inProgressKey t.id]
  .hashSet (l.taskKey t.id) (mutableFields t) :: move ++ queues

/-- Replace a task that is still as it was read. -/
def transition (l : Layout) (read t : Task) : Batch :=
  (l.guarded read).add (l.transitionOps read.status t)

/-- Refresh a task that is still as it was read; `id` is the id it was asked for by. -/
def refresh (l : Layout) (id : String) (read t : Task) : Batch :=
  (l.guarded read).add
    (.hashSet (l.taskKey id) (mutableFields t) ::
      if t.status = .inProgress then [.scoredAdd l.inProgressKey id t.updatedAt] else [])

/-- Put a popped id back into the queue. -/
def restore (l : Layout) (id : String) (score : Int64) : Batch :=
  .ofOps [.scoredAdd l.pendingKey id score]

/-- Drop an id from the leases. -/
def forget (l : Layout) (id : String) : Batch := .ofOps [.scoredRemove l.inProgressKey id]

/-- The set that lists the tasks of a status, or all tasks. -/
def indexKey (l : Layout) : Option Status → String
  | some s => l.statusKey s
  | none => l.allKey

end Layout

end LeaseQueue
