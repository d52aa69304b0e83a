/-
Requests and connections of the broker.

* `Service.handle`: the answer to one message; a message that is no request and a call that fails
  are answered by a status;
* `Connection`: the server's side of a connection, bytes received and bytes sent;
* `Connection.receive`: take in a chunk of bytes and answer every request that is complete. The
  first frame that cannot be read, and the first answer that does not fit in a frame, close the
  connection.

Every request happens at its own time and may create a task under its own id; a connection takes
both from a `Supply`.
-/
import LeaseQueue.Broker.Service
import LeaseQueue.Wire.Convert
import LeaseQueue.Wire.Frame

namespace LeaseQueue

namespace Service

variable {σ : Type} [Storage σ]

/-- The answer to a call: its response, or a status when it fails. -/
def reply {α : Type} (r : Except TaskError α × Service σ) (respond : α → Message) :
    Message × Service σ :=
  match r with
  | (.ok a, s) => (respond a, s)
  | (.error e, s) => (.status (.ofTaskError e), s)

/-- The answer to a message that is no request. -/
def notRequest (m : Message) : Message :=
  .status ⟨.unimplemented, s!"{m.type.name} is not a request"⟩

/-- The answer to one message. -/
def handle (s : Service σ) (id : String) (now : Timestamp) (m : Message) :
    Message × Service σ :=
  match m with
  | .enqueue type payload metadata =>
    reply (s.enqueue id now type payload (WireEntry.toMetadata metadata)) fun t =>
      .enqueued (.ofTask t)
  | .dequeue worker =>
    reply (s.dequeue now worker) fun t => .dequeued t.isSome (t.map .ofTask)
  | .ack taskId success result =>
    reply (s.ack now taskId success (some result |>.filter (· ≠ ""))) fun t => .acked (.ofTask t)
  | .listTasks status => reply (s.list status) fun l => .listed (l.map .ofTask)
  | .heartbeat taskId => reply (s.heartbeat now taskId) fun t => .refreshed (.ofTask t)
  | m => (notRequest m, s)

end Service

/-! ### Connections -/

/-- Where the times of requests and the ids of new tasks come from. -/
structure Supply where
  /-- The time of the n-th request. -/
  time : Nat → Timestamp
  /-- The id of the n-th new task. -/
  id : Nat → String

/-- The server's side of a connection. -/
structure Connection (σ : Type) where
  service : Service σ
  /-- Bytes received and not yet used. -/
  buffer : ByteArray
  /-- Bytes sent. -/
  sent : ByteArray
  /-- The number of requests answered. -/
  requests : Nat
  /-- The number of tasks created. -/
  created : Nat
  /-- Whether more bytes are read. -/
  isOpen : Bool

namespace Connection

variable {σ : Type} [Storage σ]

/-- A connection that has just been opened. -/
def start (service : Service σ) : Connection σ := ⟨service, .empty, .empty, 0, 0, true⟩

/-- Answer one request and send the answer; one that does not fit in a frame closes the
connection. -/
def answer (c : Connection σ) (supply : Supply) (m : Message) : Connection σ :=
  let (reply, service) := c.service.handle (supply.id c.created) (supply.time c.requests) m
  let created := match reply with
    | .enqueued _ => c.created + 1
    | _ => c.created
  let c := { c with service, created, requests := c.requests + 1 }
  match Frame.encode reply with
  | .ok frame => { c with sent := c.sent ++ frame }
  | .error _ => { c with isOpen := false }

/-- Answer the complete requests of the buffer, at most `fuel` of them. -/
def drain (supply : Supply) : Nat → Connection σ → Connection σ
  | 0, c => c
  | fuel + 1, c =>
    if !c.isOpen then c
    else
      match Frame.decode c.buffer with
      | (.ok none, buffer) => { c with buffer }
      | (.ok (some m), buffer) => drain supply fuel ({ c with buffer }.answer supply m)
      | (.error _, buffer) => { c with buffer, isOpen := false }

/-- Take in a chunk of bytes. A request takes at least one byte, so the buffer cannot hold more
requests than bytes. -/
def receive (supply : Supply) (c : Connection σ) (chunk : ByteArray) : Connection σ :=
  if !c.isOpen then c
  else
    let c := { c with buffer := c.buffer ++ chunk }
    drain supply (c.buffer.size + 1) c

/-- Take in chunks one after the other. -/
def receiveAll (supply : Supply) (c : Connection σ) (chunks : List ByteArray) : Connection σ :=
  chunks.foldl (receive supply) c

end Connection

end LeaseQueue
