/-
Tasks as JSON objects.

* `Task.toJson`: the ten fields in their fixed order;
* `Task.ofJson?`, `Task.ofJsonText?`: reading such an object, or an array of the ten values in the
  same order. An absent result or worker is none, names outside the ten are passed over, a name that
  occurs twice is refused.
-/
import LeaseQueue.Task.Basic
import LeaseQueue.Json.Reader
import LeaseQueue.Json.Writer

namespace LeaseQueue

/-- A status as a JSON string. -/
def Status.toJson (s : Status) : Json := .string s.name

/-- A status from its name. -/
def Status.ofJson? (v : Json) : Option Status := v.asName?.bind Status.ofName?

namespace Task

/-- The names of the ten fields. -/
def fieldNames : List String :=
  ["id", "type", "payload", "metadata", "status", "created_at", "updated_at", "result",
   "worker_id", "attempts"]

/-- An optional text, null when absent. -/
def optionalText : Option String → Json
  | some s => .string s
  | none => .null

/-- The ten fields as JSON values. -/
def toJson (t : Task) : Json :=
  .object
    [("id", .string t.id), ("type", .string t.type), ("payload", .string t.payload),
     ("metadata", .ofTexts t.metadata), ("status", t.status.toJson),
     ("created_at", .whole t.createdAt.toInt), ("updated_at", .whole t.updatedAt.toInt),
     ("result", optionalText t.result), ("worker_id", optionalText t.worker),
     ("attempts", .whole t.attempts.toNat)]

/-- The task of ten JSON values in the order of the fields. -/
def ofValues? : List Json → Option Task
  | [id, type, payload, metadata, status, createdAt, updatedAt, result, worker, attempts] => do
    return {
      id := ← id.asString?
      type := ← type.asString?
      payload := ← payload.asString?
      metadata := ← metadata.asTexts?
      status := ← Status.ofJson? status
      createdAt := ← createdAt.asInt64?
      updatedAt := ← updatedAt.asInt64?
      result := ← result.asOptionalString?
      worker := ← worker.asOptionalString?
      attempts := ← attempts.asUInt32? }
  | _ => none

/-- The task that a JSON value describes, an absent result or worker being none. -/
def ofJson? (v : Json) : Option Task := (v.asFields? fieldNames).bind ofValues?

/-- The value of a field among named values: refused when repeated, null when absent and
optional. -/
def fieldValue? (members : List (String × Json)) (name : String) : Option Json :=
  match members.filter (·.1 == name) with
  | [(_, v)] => some v
  | [] => if name == "result" || name == "worker_id" then some .null else none
  | _ => none

/-- The task that a JSON text describes. -/
def ofJsonText? (text : String) : Option Task :=
  match Json.parseFields? fieldNames text with
  | some (.named members) => (fieldNames.mapM (fieldValue? members)).bind ofValues?
  | some (.listed items) => ofValues? items
  | none => none

end Task

end LeaseQueue
