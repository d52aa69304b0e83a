/-
Why a request about a task is refused.

* `TaskError`: the causes;
* `TaskError.message`: their wording.
-/
import LeaseQueue.Task.Status

namespace LeaseQueue

/-- A refused or failed request about a task. -/
inductive TaskError where
  /-- No task has this id. -/
  | notFound (id : String)
  /-- An argument is not acceptable. -/
  | invalidArgument (reason : String)
  /-- The task is finished already. -/
  | invalidState (id : String) (status : Status)
  /-- The storage cannot be used now. -/
  | unavailable (reason : String)
  /-- Stored data cannot be read. -/
  | corrupted (reason : String)
deriving DecidableEq, Repr

/-- The name of the kind of an error. -/
def TaskError.kind : TaskError → String
  | notFound _ => "NotFound"
  | invalidArgument _ => "InvalidArgument"
  | invalidState _ _ => "InvalidState"
  | unavailable _ => "Unavailable"
  | corrupted _ => "Corrupted"

/-- The wording of an error. -/
def TaskError.message : TaskError → String
  | notFound id => s!"Task not found: {id}"
  | invalidArgument reason => s!"Invalid argument: {reason}"
  | invalidState id status => s!"Task {id} is already {status.name}"
  | unavailable reason => s!"Storage unavailable: {reason}"
  | corrupted reason => s!"Corrupted task data: {reason}"

/-- A status name that is not one of the four is an invalid argument. -/
def Status.parse (text : String) : Except TaskError Status :=
  match Status.ofName? text with
  | some s => .ok s
  | none => .error (.invalidArgument s!"unsupported status '{text}'")

end LeaseQueue
