/-
What a broker has done, event by event.

* `AuditKind`: the kinds of events that the broker writes;
* `AuditEvent`: one event, with a subject and named details;
* `AuditLog`: events in memory, in the order they were recorded;
* `AuditTable`: events in a table that keeps details as JSON text, listed newest first;
* `AuditSink`: where a broker writes its events, if anywhere.
-/
import LeaseQueue.Task.Basic
import LeaseQueue.Json.Reader
import LeaseQueue.Json.Writer

namespace LeaseQueue

/-! ### Events -/

/-- The kinds of events that a broker writes. -/
inductive AuditKind where
  | enqueued | dequeued | acknowledged | requeued | failedTimeout | heartbeat
deriving DecidableEq, Repr

/-- The name of a kind. -/
def AuditKind.name : AuditKind → String
  | enqueued => "task_enqueued"
  | dequeued => "task_dequeued"
  | acknowledged => "task_acknowledged"
  | requeued => "task_requeued"
  | failedTimeout => "task_failed_timeout"
  | heartbeat => "task_heartbeat"

/-- One event. -/
structure AuditEvent where
  /-- What has happened, usually the name of an `AuditKind`. -/
  type : String
  /-- Who or what it has happened to. -/
  subject : String
  details : SortedMap String
  createdAt : Timestamp
deriving DecidableEq, Repr

/-- An event as a JSON object. -/
def AuditEvent.toJson (e : AuditEvent) : Json :=
  .object
    [("event_type", .string e.type), ("subject", .string e.subject),
     ("details", .ofTexts e.details), ("created_at", .whole e.createdAt.toInt)]

/-! ### Events in memory -/

/-- Events in the order they were recorded. -/
structure AuditLog where
  events : List AuditEvent
deriving DecidableEq, Repr

namespace AuditLog

/-- No events. -/
def empty : AuditLog := ⟨[]⟩

/-- Add an event at the end. -/
def record (l : AuditLog) (e : AuditEvent) : AuditLog := ⟨l.events ++ [e]⟩

/-- The events of one type. -/
def eventsOf (l : AuditLog) (type : String) : List AuditEvent :=
  l.events.filter fun e => e.type == type

end AuditLog

/-! ### Events in a table -/

/-- A row of the table of events. -/
structure AuditRow where
  /-- Counts the rows from one. -/
  id : Nat
  type : String
  subject : String
  /-- The details as the text of a JSON object. -/
  details : String
  createdAt : Timestamp
deriving DecidableEq, Repr

namespace AuditRow

/-- The row of an event. -/
def ofEvent (id : Nat) (e : AuditEvent) : AuditRow :=
  { id, type := e.type, subject := e.subject, details := (Json.ofTexts e.details).write
    createdAt := e.createdAt }

/-- The event of a row, if its details can be read. -/
def event? (r : AuditRow) : Option AuditEvent :=
  ((Json.parse? r.details).bind Json.asTexts?).map fun details =>
    { type := r.type, subject := r.subject, details, createdAt := r.createdAt }

/-- Newest first; of rows of one time the later one comes first. -/
def newerLe (a b : AuditRow) : Bool :=
  b.createdAt < a.createdAt || (b.createdAt == a.createdAt && b.id ≤ a.id)

end AuditRow

/-- The table of events. -/
structure AuditTable where
  rows : List AuditRow
deriving DecidableEq, Repr

namespace AuditTable

/-- No rows. -/
def empty : AuditTable := ⟨[]⟩

/-- Add a row for an event. -/
def record (t : AuditTable) (e : AuditEvent) : AuditTable :=
  ⟨t.rows ++ [.ofEvent (t.rows.length + 1) e]⟩

/-- The first rows of a list; a negative limit is none. -/
def cut (limit : Int64) (rows : List AuditRow) : List AuditRow :=
  if limit < 0 then rows else rows.take limit.toInt.toNat

/-- The newest events, at most `limit` of them, or none when details cannot be read. A limit
beyond the numbers with sign is no limit. -/
def list? (t : AuditTable) (limit : UInt64) : Option (List AuditEvent) :=
  (cut limit.toInt64 (t.rows.mergeSort AuditRow.newerLe)).mapM AuditRow.event?

end AuditTable

/-! ### Sinks -/

/-- Where events go. -/
inductive AuditSink where
  /-- Nowhere. -/
  | none
  /-- To a sink that refuses all of them. -/
  | broken
  | log (l : AuditLog)
  | table (t : AuditTable)
deriving DecidableEq, Repr

namespace AuditSink

/-- The sink after an event; an event that is refused is lost. -/
def record (s : AuditSink) (e : AuditEvent) : AuditSink :=
  match s with
  | log l => log (l.record e)
  | table t => table (t.record e)
  | s => s

end AuditSink

end LeaseQueue
