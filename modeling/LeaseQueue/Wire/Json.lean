/-
Messages as JSON values.

* `WireEntry.toJson`, `WireTask.toJson`, `Message.toJson`: objects of their fields; a message is an
  object that binds its kind to the object of its fields;
* `WireEntry.ofJson?`, `WireTask.ofJson?`, `Message.ofJson?`: reading them back, from objects or
  from arrays of all fields in order. Only what may be absent may be missing or null.
-/
import LeaseQueue.Task.Json
import LeaseQueue.Wire.Message

namespace LeaseQueue

/-! ### Entries and tasks -/

namespace WireEntry

/-- An entry as a JSON object. -/
def toJson (e : WireEntry) : Json := .object [("key", .string e.key), ("value", .string e.value)]

/-- The entry that a JSON value describes. -/
def ofJson? (v : Json) : Option WireEntry := do
  match ← v.asFields? ["key", "value"] with
  | [key, value] => return ⟨← key.asString?, ← value.asString?⟩
  | _ => failure

end WireEntry

namespace WireTask

/-- The names of the ten fields. -/
def fieldNames : List String :=
  ["id", "task_type", "payload", "metadata", "status", "created_at", "updated_at", "result",
   "worker_id", "attempts"]

/-- A task as a JSON object. -/
def toJson (t : WireTask) : Json :=
  .object
    [("id", .string t.id), ("task_type", .string t.type), ("payload", .string t.payload),
     ("metadata", .array (t.metadata.map WireEntry.toJson)), ("status", .string t.status),
     ("created_at", .whole t.createdAt.toInt), ("updated_at", .whole t.updatedAt.toInt),
     ("result", Task.optionalText t.result), ("worker_id", Task.optionalText t.worker),
     ("attempts", .whole t.attempts.toInt)]

/-- The task that a JSON value describes. -/
def ofJson? (v : Json) : Option WireTask := do
  match ← v.asFields? fieldNames with
  | [id, type, payload, metadata, status, createdAt, updatedAt, result, worker, attempts] =>
    return {
      id := ← id.asString?
      type := ← type.asString?
      payload := ← payload.asString?
      metadata := ← metadata.asList? WireEntry.ofJson?
      status := ← status.asString?
      createdAt := ← createdAt.asInt64?
      updatedAt := ← updatedAt.asInt64?
      result := ← result.asOptionalString?
      worker := ← worker.asOptionalString?
      attempts := ← attempts.asInt32? }
  | _ => failure

/-- The task that a JSON value describes, none for null. -/
def optionOfJson? : Json → Option (Option WireTask)
  | .null => some none
  | v => (ofJson? v).map some

end WireTask

/-- The code of a failed call from the name of its kind. -/
def StatusCode.ofJson? (v : Json) : Option StatusCode := v.asName?.bind StatusCode.ofKind?

/-! ### Messages -/

namespace Message

/-- The fields of a message. -/
def fields : Message → List (String × Json)
  | .enqueue type payload metadata =>
    [("task_type", .string type), ("payload", .string payload),
     ("metadata", .array (metadata.map WireEntry.toJson))]
  | .dequeue worker => [("worker_id", .string worker)]
  | .ack id success result =>
    [("task_id", .string id), ("success", .bool success), ("result", .string result)]
  | .listTasks state => [("status", .string state)]
  | .heartbeat id => [("task_id", .string id)]
  | .enqueued t | .acked t | .refreshed t => [("task", t.toJson)]
  | .dequeued hasTask t =>
    [("has_task", .bool hasTask), ("task", (t.map WireTask.toJson).getD .null)]
  | .listed l => [("tasks", .array (l.map WireTask.toJson))]
  | .status s => [("code", .string s.code.kind), ("message", .string s.message)]

/-- A message as a JSON object. -/
def toJson (m : Message) : Json := .object [(m.type.name, .object m.fields)]

/-- The names of the fields of messages of a kind, in order. -/
def fieldNames : MessageType → List String
  | .enqueue => ["task_type", "payload", "metadata"]
  | .dequeue => ["worker_id"]
  | .ack => ["task_id", "success", "result"]
  | .listTasks => ["status"]
  | .heartbeat => ["task_id"]
  | .enqueueResponse | .ackResponse | .heartbeatResponse => ["task"]
  | .dequeueResponse => ["has_task", "task"]
  | .listTasksResponse => ["tasks"]
  | .status => ["code", "message"]

/-- The message of a kind and the values of its fields. -/
def ofFields? : MessageType → List Json → Option Message
  | .enqueue, [type, payload, metadata] => do
    return .enqueue (← type.asString?) (← payload.asString?)
      (← metadata.asList? WireEntry.ofJson?)
  | .dequeue, [worker] => do return .dequeue (← worker.asString?)
  | .ack, [id, success, result] => do
    return .ack (← id.asString?) (← success.asBool?) (← result.asString?)
  | .listTasks, [state] => do return .listTasks (← state.asString?)
  | .heartbeat, [id] => do return .heartbeat (← id.asString?)
  | .enqueueResponse, [task] => do return .enqueued (← WireTask.ofJson? task)
  | .dequeueResponse, [hasTask, task] => do
    return .dequeued (← hasTask.asBool?) (← WireTask.optionOfJson? task)
  | .ackResponse, [task] => do return .acked (← WireTask.ofJson? task)
  | .listTasksResponse, [tasks] => do return .listed (← tasks.asList? WireTask.ofJson?)
  | .heartbeatResponse, [task] => do return .refreshed (← WireTask.ofJson? task)
  | .status, [code, message] => do
    return .status ⟨← StatusCode.ofJson? code, ← message.asString?⟩
  | _, _ => none

/-- The message that a JSON value describes. -/
def ofJson? : Json → Option Message
  | .object [(name, v)] => do
    let type ← MessageType.all.find? fun t => t.name == name
    ofFields? type (← v.asFields? (fieldNames type))
  | _ => none

end Message

end LeaseQueue
