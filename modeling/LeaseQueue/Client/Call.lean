/-
Calls on a broker over a connection.

* `ClientCall`: the five calls; `ClientCall.ofCall?` takes them from storage calls, and
  `ClientCall.request` is the message for one;
* `ClientCall.accept`: what the answer means to the caller;
* `Received`: what has come back on a connection, and `Received.message` its first message;
* `Remote`: a broker at the other end, called by `Remote.perform` through both directions of the
  wire.

Every call opens a connection of its own and reads one answer from it.
-/
import LeaseQueue.Broker.Handler
import LeaseQueue.Client.Error
import LeaseQueue.Wire.Network

namespace LeaseQueue

/-- A call of a client. -/
inductive ClientCall where
  | enqueue (type payload : String) (metadata : Metadata)
  | dequeue (worker : String)
  | ack (id : String) (success : Bool) (result : Option String)
  | list (status : Option Status)
  | heartbeat (id : String)
deriving DecidableEq, Repr

namespace ClientCall

/-- The call of a client that does what a storage call does, if there is one. -/
def ofCall? : Call → Option ClientCall
  | .enqueue type payload metadata => some (enqueue type payload metadata)
  | .dequeue worker => some (dequeue worker)
  | .ack id success result => some (ack id success result)
  | .list status => some (list status)
  | .heartbeat id => some (heartbeat id)
  | .get _ | .recover _ _ => none

/-- The message that asks for a call; an absent result and an absent status are empty texts. -/
def request : ClientCall → Message
  | enqueue type payload metadata => .enqueue type payload (WireEntry.ofMetadata metadata)
  | dequeue worker => .dequeue worker
  | ack id success result => .ack id success (result.getD "")
  | list status => .listTasks ((status.map Status.name).getD "")
  | heartbeat id => .heartbeat id

/-- A task that has come back. -/
def readTask (w : WireTask) : Except ClientError Task :=
  w.toTask.mapError fun e => .protocol e.message

/-- The complaint about an answer to some other call. -/
def unexpected (m : Message) : ClientError := .protocol s!"Unexpected response {m.type.name}"

/-- What an answer means to the caller. -/
def accept (c : ClientCall) (reply : Message) : Except ClientError Outcome :=
  match c, reply with
  | _, .status s => .error (.ofStatus s)
  | enqueue _ _ _, .enqueued t | ack _ _ _, .acked t | heartbeat _, .refreshed t =>
    (readTask t).map .task
  | dequeue _, .dequeued true (some t) => (readTask t).map fun t => .found (some t)
  | dequeue _, .dequeued false _ => .ok (.found none)
  | dequeue _, .dequeued true none => .error (.protocol "dequeue reported a task but sent none")
  | list _, .listed l => (l.mapM readTask).map .tasks
  | _, m => .error (unexpected m)

end ClientCall

/-! ### Answers on the wire -/

/-- What has come back on a connection. -/
inductive Received where
  /-- These bytes, and then the end of the connection. -/
  | closed (bytes : ByteArray)
  /-- These bytes, and nothing more within the time allowed. -/
  | silent (bytes : ByteArray)

namespace Received

/-- The first message of the bytes, if there is one. -/
def message (r : Received) : Except ClientError Message :=
  let (bytes, late) := match r with
    | closed bytes => (bytes, false)
    | silent bytes => (bytes, true)
  match Frame.decode bytes with
  | (.ok (some m), _) => .ok m
  | (.error e, _) => .error (.ofWireError e)
  | (.ok none, rest) =>
    if late then .error .timeout
    else if rest.size = 0 then .error (.connection "Connection closed")
    else .error (.ofWireError (.io "bytes remaining on stream"))

end Received

/-- The outcome of a call: the request goes to `peer`, which says what comes back. -/
def ClientCall.exchange {π : Type} (c : ClientCall) (peer : ByteArray → Received × π) :
    Except ClientError Outcome × Option π :=
  match Frame.encode c.request with
  | .error e => (.error (.ofWireError e), none)
  | .ok frame =>
    let (received, after) := peer frame
    (received.message.bind c.accept, some after)

/-! ### A broker at the other end -/

/-- A broker that can be reached. -/
structure Remote (σ : Type) where
  service : Service σ

namespace Remote

variable {σ : Type}

/-- Find the broker at an address. -/
def connect (network : Network) (address : String) (service : Service σ) :
    Except ClientError (Remote σ) :=
  network.connectTo address .connection ⟨service⟩

variable [Storage σ]

/-- One call; `id` is the id of a task that it may create. -/
def perform (r : Remote σ) (id : String) (now : Timestamp) (c : ClientCall) :
    Except ClientError Outcome × Remote σ :=
  let (outcome, after) := c.exchange fun frame =>
    let conn := (Connection.start r.service).receive ⟨fun _ => now, fun _ => id⟩ frame
    (.closed conn.sent, conn.service)
  (outcome, ⟨after.getD r.service⟩)

end Remote

end LeaseQueue
