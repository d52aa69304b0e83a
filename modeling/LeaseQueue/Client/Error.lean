/-
Failures that callers of a queue see, near or remote.

* `ClientError`: the causes; `ClientError.message`: their wording;
* `ClientError.ofTaskError`, `ofStoreError`, `ofStatus`, `ofWireError`: where they come from.

An error that crosses the wire as a failed call arrives as it would have without the wire
(`ofStatus_ofTaskError`).
-/
import LeaseQueue.Store.Error
import LeaseQueue.Wire.Convert
import LeaseQueue.Wire.Frame

namespace LeaseQueue

/-- A failed call on a queue. -/
inductive ClientError where
  | notFound (reason : String)
  | invalidArgument (reason : String)
  | invalidState (reason : String)
  | unavailable (reason : String)
  /-- The broker cannot be reached. -/
  | connection (reason : String)
  /-- The broker sends something unexpected. -/
  | protocol (reason : String)
  /-- The broker does not answer in time. -/
  | timeout
  /-- The broker fails. -/
  | server (reason : String)
deriving DecidableEq, Repr

namespace ClientError

/-- The name of the kind of an error. -/
def kind : ClientError → String
  | notFound _ => "NotFound"
  | invalidArgument _ => "InvalidArgument"
  | invalidState _ => "InvalidState"
  | unavailable _ => "Unavailable"
  | connection _ => "Connection"
  | protocol _ => "Protocol"
  | timeout => "Timeout"
  | server _ => "Server"

/-- The wording of an error. -/
def message : ClientError → String
  | notFound reason => reason
  | invalidArgument reason => reason
  | invalidState reason => reason
  | unavailable reason => reason
  | connection reason => s!"Connection error: {reason}"
  | protocol reason => s!"Protocol error: {reason}"
  | timeout => "Timeout"
  | server reason => s!"Server error: {reason}"

/-- The failure for an error of a task request. -/
def ofTaskError (e : TaskError) : ClientError :=
  match e with
  | .notFound _ => notFound e.message
  | .invalidArgument _ => invalidArgument e.message
  | .invalidState _ _ => invalidState e.message
  | .unavailable _ => unavailable e.message
  | .corrupted _ => server e.message

/-- The failure for an error of a store. -/
def ofStoreError (e : StoreError) : ClientError := ofTaskError e.toTaskError

/-- The failure for a failed call. -/
def ofStatus (s : CallStatus) : ClientError :=
  match s.code with
  | .notFound => notFound s.message
  | .invalidArgument => invalidArgument s.message
  | .failedPrecondition => invalidState s.message
  | .unavailable => unavailable s.message
  | .internal | .unimplemented => server s.message

/-- The failure for an error on the wire. -/
def ofWireError (e : WireError) : ClientError :=
  match e with
  | .io reason => connection reason
  | e => protocol e.message

theorem ofStatus_ofTaskError (e : TaskError) :
    ofStatus (.ofTaskError e) = ofTaskError e := by
  cases e <;> rfl

end ClientError

end LeaseQueue
