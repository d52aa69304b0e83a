/-
Tasks and errors to and from their wire forms.

* `WireEntry.ofMetadata`, `WireEntry.toMetadata`: tags as a list; of equal keys the last counts;
* `WireTask.ofTask`, `WireTask.toTask`: tasks; attempts are held within 32 bits with sign;
* `CallStatus.ofTaskError`: the failed call for an error.
-/
import LeaseQueue.Wire.Message
import LeaseQueue.Task.Basic
import LeaseQueue.Number.Decimal

namespace LeaseQueue

/-- Tags in the order of their keys. -/
def WireEntry.ofMetadata (m : Metadata) : List WireEntry :=
  m.entries.map fun e => ⟨e.1, e.2⟩

/-- The tags of a list, the last of equal keys kept. -/
def WireEntry.toMetadata (l : List WireEntry) : Metadata :=
  SortedMap.ofList (l.map fun e => (e.key, e.value))

namespace WireTask

/-- Attempts on the wire, the greatest number with sign if they exceed it. -/
def wireAttempts (n : UInt32) : Int32 :=
  if n.toNat ≤ Int32.maxValue.toInt.toNat then Int32.ofNat n.toNat else Int32.maxValue

/-- A task as it travels. -/
def ofTask (t : Task) : WireTask :=
  { id := t.id, type := t.type, payload := t.payload
    metadata := WireEntry.ofMetadata t.metadata, status := t.status.name
    createdAt := t.createdAt, updatedAt := t.updatedAt
    result := t.result, worker := t.worker, attempts := wireAttempts t.attempts }

/-- The task that has travelled. An unknown status is reported before a negative number of
attempts; empty texts count as absent. -/
def toTask (w : WireTask) : Except TaskError Task := do
  let status ← Status.parse w.status
  if w.attempts.toInt < 0 then
    throw (.invalidArgument s!"negative attempts {Decimal.text w.attempts.toInt}")
  return {
    id := w.id, type := w.type, payload := w.payload
    metadata := WireEntry.toMetadata w.metadata, status
    createdAt := w.createdAt, updatedAt := w.updatedAt
    result := w.result.filter (· ≠ ""), worker := w.worker.filter (· ≠ "")
    attempts := UInt32.ofNat w.attempts.toInt.toNat }

end WireTask

/-- The code for an error. -/
def StatusCode.ofTaskError : TaskError → StatusCode
  | .notFound _ => .notFound
  | .invalidArgument _ => .invalidArgument
  | .invalidState _ _ => .failedPrecondition
  | .unavailable _ => .unavailable
  | .corrupted _ => .internal

/-- The failed call for an error. -/
def CallStatus.ofTaskError (e : TaskError) : CallStatus := ⟨.ofTaskError e, e.message⟩

end LeaseQueue
