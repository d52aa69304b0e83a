/-
The bodies of messages as bytes.

* `Body.nat`, `Body.text`, …: writing; whole numbers have a fixed width, least byte first, texts
  and lists are preceded by their length in eight bytes, truth values and optional parts by one
  byte, a status code takes four;
* `Body.Reader`: reading from a place in a sequence of bytes;
* `Body.encode`, `Body.decode`: the body of a message, by its kind; bytes after the last field are
  not looked at.
-/
import LeaseQueue.Wire.Message
import LeaseQueue.Text.Utf8

namespace LeaseQueue

/-- Why a body cannot be read. -/
inductive BodyError where
  /-- The bytes end before or inside a number. -/
  | endOfInput
  /-- The bytes end inside a text. -/
  | endOfText
  /-- A text is not UTF-8. -/
  | invalidText (fault : Text.Utf8Fault)
  /-- A truth value is neither 0 nor 1. -/
  | invalidBool (n : Nat)
  /-- The mark of an optional part is neither 0 nor 1. -/
  | invalidMark (n : Nat)
  /-- No status code has this number. -/
  | invalidCode (n : Nat)
deriving DecidableEq, Repr

/-- The wording of an error. -/
def BodyError.message : BodyError → String
  | endOfInput => "io error: unexpected end of file"
  | endOfText => "io error: "
  | invalidText fault => s!"string is not valid utf8: {fault.message}"
  | invalidBool n => s!"invalid u8 while decoding bool, expected 0 or 1, found {n}"
  | invalidMark n => s!"tag for enum is not valid, found {n}"
  | invalidCode n =>
    s!"invalid value: integer " ++ "\x60" ++ toString n ++ "\x60" ++
      ", expected variant index 0 <= i < 6"

namespace Body

/-! ### Writing -/

/-- The `width` lowest bytes of a number, least first. -/
def littleEndian : (width n : Nat) → List UInt8
  | 0, _ => []
  | width + 1, n => UInt8.ofNat (n % 256) :: littleEndian width (n / 256)

/-- The number of bytes, least first. -/
def littleEndianValue : List UInt8 → Nat
  | [] => 0
  | b :: rest => b.toNat + 256 * littleEndianValue rest

/-- Bytes of a list. -/
def ofBytes (l : List UInt8) : ByteArray := ⟨l.toArray⟩

/-- A number in `width` bytes. -/
def nat (width n : Nat) : ByteArray := ofBytes (littleEndian width n)

/-- A text after its length in bytes. -/
def text (s : String) : ByteArray := nat 8 s.utf8ByteSize ++ s.toUTF8

/-- A truth value. -/
def bool (b : Bool) : ByteArray := nat 1 (if b then 1 else 0)

/-- A number of 64 bits with sign. -/
def int64 (n : Int64) : ByteArray := nat 8 n.toUInt64.toNat

/-- A number of 32 bits with sign. -/
def int32 (n : Int32) : ByteArray := nat 4 n.toUInt32.toNat

/-- An optional part after its mark. -/
def option {α : Type} (write : α → ByteArray) : Option α → ByteArray
  | none => nat 1 0
  | some a => nat 1 1 ++ write a

/-- A list after its length. -/
def list {α : Type} (write : α → ByteArray) (l : List α) : ByteArray :=
  l.foldl (fun bytes a => bytes ++ write a) (nat 8 l.length)

/-- A tag. -/
def entry (e : WireEntry) : ByteArray := text e.key ++ text e.value

/-- A task. -/
def task (t : WireTask) : ByteArray :=
  text t.id ++ text t.type ++ text t.payload ++ list entry t.metadata ++ text t.status ++
    int64 t.createdAt ++ int64 t.updatedAt ++ option text t.result ++ option text t.worker ++
    int32 t.attempts

/-- A failed call. -/
def status (s : CallStatus) : ByteArray := nat 4 s.code.index ++ text s.message

/-- The body of a message. -/
def encode : Message → ByteArray
  | .enqueue type payload metadata => text type ++ text payload ++ list entry metadata
  | .dequeue worker => text worker
  | .ack id success result => text id ++ bool success ++ text result
  | .listTasks s => text s
  | .heartbeat id => text id
  | .enqueued t => task t
  | .dequeued hasTask t => bool hasTask ++ option task t
  | .acked t => task t
  | .listed l => list task l
  | .refreshed t => task t
  | .status s => status s

/-! ### Reading -/

/-- A value read from bytes at a place, with the place after it. -/
abbrev Reader (α : Type) := ByteArray → Nat → Except BodyError (α × Nat)

namespace Reader

/-- Read one value, then another that may depend on it. -/
def andThen {α β : Type} (r : Reader α) (f : α → Reader β) : Reader β := fun bytes place =>
  match r bytes place with
  | .ok (a, place) => f a bytes place
  | .error e => .error e

/-- A value that takes no bytes. -/
def pure {α : Type} (a : α) : Reader α := fun _ place => .ok (a, place)

/-- A failure. -/
def fail {α : Type} (e : BodyError) : Reader α := fun _ _ => .error e

instance : Monad Reader where
  pure := Reader.pure
  bind := Reader.andThen

/-- So many bytes, or an error when they are not there. -/
def slice (n : Nat) (short : BodyError) : Reader ByteArray := fun bytes place =>
  if place + n ≤ bytes.size then .ok (bytes.extract place (place + n), place + n)
  else .error short

/-- A number of a width. -/
def nat (width : Nat) : Reader Nat := do
  let bytes ← slice width .endOfInput
  return littleEndianValue bytes.data.toList

/-- A text. -/
def text : Reader String := do
  let n ← nat 8
  let bytes ← slice n .endOfText
  match String.fromUTF8? bytes with
  | some s => return s
  | none => fail (.invalidText ((Text.utf8Fault? bytes).getD ⟨0, none⟩))

/-- A truth value. -/
def bool : Reader Bool := do
  match ← nat 1 with
  | 0 => return false
  | 1 => return true
  | n => fail (.invalidBool n)

/-- A number of 64 bits with sign. -/
def int64 : Reader Int64 := do
  let n ← nat 8
  return (UInt64.ofNat n).toInt64

/-- A number of 32 bits with sign. -/
def int32 : Reader Int32 := do
  let n ← nat 4
  return (UInt32.ofNat n).toInt32

/-- An optional part. -/
def option {α : Type} (read : Reader α) : Reader (Option α) := do
  match ← nat 1 with
  | 0 => return none
  | 1 =>
    let a ← read
    return some a
  | n => fail (.invalidMark n)

/-- So many values, after those already read, which stand in reverse. -/
def items {α : Type} (read : Reader α) : Nat → List α → Reader (List α)
  | 0, done => Reader.pure done.reverse
  | n + 1, done => fun bytes place =>
    match read bytes place with
    | .ok (a, place) => items read n (a :: done) bytes place
    | .error e => .error e

/-- A list. -/
def list {α : Type} (read : Reader α) : Reader (List α) := do
  let n ← nat 8
  items read n []

/-- A tag. -/
def entry : Reader WireEntry := do
  let key ← text
  let value ← text
  return ⟨key, value⟩

/-- A task. -/
def task : Reader WireTask := do
  let id ← text
  let type ← text
  let payload ← text
  let metadata ← list entry
  let status ← text
  let createdAt ← int64
  let updatedAt ← int64
  let result ← option text
  let worker ← option text
  let attempts ← int32
  return { id, type, payload, metadata, status, createdAt, updatedAt, result, worker, attempts }

/-- A failed call. -/
def status : Reader CallStatus := do
  let n ← nat 4
  match StatusCode.ofIndex? n with
  | none => fail (.invalidCode n)
  | some code =>
    let message ← text
    return ⟨code, message⟩

/-- The body of a message of a kind. -/
def message : MessageType → Reader Message
  | .enqueue => do
    let type ← text
    let payload ← text
    let metadata ← list entry
    return .enqueue type payload metadata
  | .dequeue => do
    let worker ← text
    return .dequeue worker
  | .ack => do
    let id ← text
    let success ← bool
    let result ← text
    return .ack id success result
  | .listTasks => do
    let s ← text
    return .listTasks s
  | .heartbeat => do
    let id ← text
    return .heartbeat id
  | .enqueueResponse => do
    let t ← task
    return .enqueued t
  | .dequeueResponse => do
    let hasTask ← bool
    let t ← option task
    return .dequeued hasTask t
  | .ackResponse => do
    let t ← task
    return .acked t
  | .listTasksResponse => do
    let l ← list task
    return .listed l
  | .heartbeatResponse => do
    let t ← task
    return .refreshed t
  | .status => do
    let s ← status
    return .status s

end Reader

/-- The message of a kind in a body. -/
def decode (type : MessageType) (body : ByteArray) : Except BodyError Message :=
  (Reader.message type body 0).map (·.1)

end Body

end LeaseQueue
