/-
The messages between clients and the broker.

* `WireEntry`, `WireTask`: tags and tasks as they travel;
* `StatusCode`, `CallStatus`: the answer to a failed call;
* `Message`: five requests, their five answers and the failed call;
* `MessageType`: the kind of a message and its code, one byte.
-/

namespace LeaseQueue

/-- One tag of a task. -/
structure WireEntry where
  key : String
  value : String
deriving DecidableEq, Repr

/-- A task as it travels. -/
structure WireTask where
  id : String
  type : String
  payload : String
  metadata : List WireEntry
  status : String
  createdAt : Int64
  updatedAt : Int64
  result : Option String
  worker : Option String
  attempts : Int32
deriving DecidableEq, Repr

/-- The kind of a failed call. -/
inductive StatusCode where
  | invalidArgument
  | notFound
  | failedPrecondition
  | unavailable
  | internal
  | unimplemented
deriving DecidableEq, Repr

namespace StatusCode

/-- All codes, in the order of their numbers. -/
def all : List StatusCode :=
  [invalidArgument, notFound, failedPrecondition, unavailable, internal, unimplemented]

/-- The number of a code. -/
def index : StatusCode → Nat
  | invalidArgument => 0
  | notFound => 1
  | failedPrecondition => 2
  | unavailable => 3
  | internal => 4
  | unimplemented => 5

/-- The code with a number. -/
def ofIndex? (n : Nat) : Option StatusCode := all[n]?

/-- The name of the kind of failure. -/
def kind : StatusCode → String
  | invalidArgument => "InvalidArgument"
  | notFound => "NotFound"
  | failedPrecondition => "FailedPrecondition"
  | unavailable => "Unavailable"
  | internal => "Internal"
  | unimplemented => "Unimplemented"

/-- The code of a kind of failure. -/
def ofKind? (kind : String) : Option StatusCode := all.find? fun c => c.kind == kind

/-- The name of a code. -/
def name : StatusCode → String
  | invalidArgument => "INVALID_ARGUMENT"
  | notFound => "NOT_FOUND"
  | failedPrecondition => "FAILED_PRECONDITION"
  | unavailable => "UNAVAILABLE"
  | internal => "INTERNAL"
  | unimplemented => "UNIMPLEMENTED"

end StatusCode

/-- How a call failed. -/
structure CallStatus where
  code : StatusCode
  message : String
deriving DecidableEq, Repr

/-- A message. -/
inductive Message where
  /-- Store a new task. -/
  | enqueue (type payload : String) (metadata : List WireEntry)
  /-- Lease a task. -/
  | dequeue (worker : String)
  /-- Finish a task; an empty result is none. -/
  | ack (id : String) (success : Bool) (result : String)
  /-- List tasks; an empty status is every status. -/
  | listTasks (status : String)
  /-- Refresh a lease. -/
  | heartbeat (id : String)
  | enqueued (task : WireTask)
  | dequeued (hasTask : Bool) (task : Option WireTask)
  | acked (task : WireTask)
  | listed (tasks : List WireTask)
  | refreshed (task : WireTask)
  /-- A failed call. -/
  | status (s : CallStatus)
deriving DecidableEq, Repr

/-- The kind of a message. -/
inductive MessageType where
  | enqueue | dequeue | ack | listTasks | heartbeat
  | enqueueResponse | dequeueResponse | ackResponse | listTasksResponse | heartbeatResponse
  | status
deriving DecidableEq, Repr

namespace MessageType

/-- All kinds. -/
def all : List MessageType :=
  [enqueue, dequeue, ack, listTasks, heartbeat, enqueueResponse, dequeueResponse, ackResponse,
   listTasksResponse, heartbeatResponse, status]

/-- The byte that stands for a kind. -/
def code : MessageType → UInt8
  | enqueue => 1
  | dequeue => 2
  | ack => 3
  | listTasks => 4
  | heartbeat => 5
  | enqueueResponse => 11
  | dequeueResponse => 12
  | ackResponse => 13
  | listTasksResponse => 14
  | heartbeatResponse => 15
  | status => 20

/-- The kind that a byte stands for. -/
def ofCode? (b : UInt8) : Option MessageType := all.find? fun t => t.code == b

/-- The name of a kind. -/
def name : MessageType → String
  | enqueue => "Enqueue"
  | dequeue => "Dequeue"
  | ack => "Ack"
  | listTasks => "ListTasks"
  | heartbeat => "Heartbeat"
  | enqueueResponse => "EnqueueResponse"
  | dequeueResponse => "DequeueResponse"
  | ackResponse => "AckResponse"
  | listTasksResponse => "ListTasksResponse"
  | heartbeatResponse => "HeartbeatResponse"
  | status => "Status"

/-- The name of the call that a kind belongs to. -/
def method : MessageType → String
  | enqueue | enqueueResponse => "Enqueue"
  | dequeue | dequeueResponse => "Dequeue"
  | ack | ackResponse => "Ack"
  | listTasks | listTasksResponse => "ListTasks"
  | heartbeat | heartbeatResponse => "Heartbeat"
  | status => "Status"

theorem ofCode?_code (t : MessageType) : ofCode? t.code = some t := by cases t <;> rfl

end MessageType

/-- The kind of a message. -/
def Message.type : Message → MessageType
  | enqueue _ _ _ => .enqueue
  | dequeue _ => .dequeue
  | ack _ _ _ => .ack
  | listTasks _ => .listTasks
  | heartbeat _ => .heartbeat
  | enqueued _ => .enqueueResponse
  | dequeued _ _ => .dequeueResponse
  | acked _ => .ackResponse
  | listed _ => .listTasksResponse
  | refreshed _ => .heartbeatResponse
  | status _ => .status

end LeaseQueue
