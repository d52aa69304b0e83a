/-
Tasks for people: tables, and what people give for tasks.

* `Task.grid`: one task, field by field;
* `Task.listGrid`: tasks in a list;
* `Admin.metadata`: tags written as `key=value`; `Admin.status`: a status in any case.
-/
import LeaseQueue.Admin.Grid
import LeaseQueue.Admin.Time

namespace LeaseQueue

namespace Task

/-- A row for an optional text. -/
def optionalRow (name : String) : Option String → List (List String)
  | some s => [[name, s]]
  | none => []

/-- One task, field by field. -/
def grid (t : Task) : Grid where
  heading := ["Field", "Value"]
  rows :=
    [["ID", t.id], ["Type", t.type], ["Status", t.status.name],
     ["Attempts", Decimal.text t.attempts.toNat], ["Created", t.createdAt.describe],
     ["Updated", t.updatedAt.describe]]
      ++ optionalRow "Worker" t.worker ++ optionalRow "Result" t.result
      ++ (t.metadata.entries.map fun e => ["meta." ++ e.1, e.2]) ++ [["Payload", t.payload]]

/-- Tasks in a list. -/
def listGrid (l : List Task) : Grid where
  heading := ["ID", "Type", "Status", "Attempts", "Worker", "Created"]
  rows := l.map fun t =>
    [t.id, t.type, t.status.name, Decimal.text t.attempts.toNat, t.worker.getD "",
     t.createdAt.describe]

end Task

namespace Admin

/-- The two sides of the first equals sign. -/
def splitEntry? (entry : String) : Option (String × String) :=
  let (key, rest) := entry.toList.span (· ≠ '=')
  match rest with
  | '=' :: value => some (String.ofList key, String.ofList value)
  | _ => none

/-- Tags written as `key=value`, or what is wrong with the first bad one. The last of equal keys
counts. -/
def metadata (entries : List String) : Except String Metadata :=
  entries.foldlM (fun m entry =>
    match splitEntry? entry with
    | none => .error s!"Invalid metadata entry '{entry}', expected KEY=VALUE"
    | some (key, value) =>
      if key = "" then .error s!"Invalid metadata entry '{entry}', key is empty"
      else .ok (m.insert key value)) .empty

/-- An optional status; its letters may be small. -/
def status (s : Option String) : Except String (Option Status) :=
  match s with
  | none => .ok none
  | some s => ((Status.parse s.toUpper).map some).mapError TaskError.message

end Admin

end LeaseQueue
