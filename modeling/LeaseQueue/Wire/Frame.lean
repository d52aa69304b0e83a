/-
Messages in frames on a stream of bytes.

A frame is the length of the rest in four bytes, greatest first, the byte of the message's kind,
and its body.

* `WireError`: what can go wrong;
* `Frame.encode`: the frame of a message, refused when its length exceeds `Frame.maxSize`;
* `Frame.decode`: the first message of a buffer, and the buffer after it. A length that is zero or
  too large is refused where it stands; an unknown kind costs the length and its byte, an
  unreadable body the whole frame.
-/
import LeaseQueue.Wire.Body

namespace LeaseQueue

/-- What can go wrong between messages and bytes. -/
inductive WireError where
  /-- No kind of message has this byte. -/
  | invalidMessageType (b : Nat)
  /-- A frame is longer than allowed. -/
  | messageTooLarge (size : Nat)
  /-- A body cannot be read. -/
  | serialization (reason : String)
  /-- Bytes cannot be moved. -/
  | io (reason : String)
  /-- The stream breaks a rule of frames. -/
  | protocol (reason : String)
deriving DecidableEq, Repr

/-- The name of the kind of an error. -/
def WireError.kind : WireError → String
  | invalidMessageType _ => "InvalidMessageType"
  | messageTooLarge _ => "MessageTooLarge"
  | serialization _ => "SerializationError"
  | io _ => "IoError"
  | protocol _ => "Protocol"

/-- The wording of an error. -/
def WireError.message : WireError → String
  | invalidMessageType b => s!"Invalid message type: {b}"
  | messageTooLarge size => s!"Message too large: {size} bytes"
  | serialization reason => s!"Serialization error: {reason}"
  | io reason => s!"IO error: {reason}"
  | protocol reason => s!"Protocol error: {reason}"

namespace Frame

/-- The greatest length of a frame after its first four bytes. -/
def maxSize : Nat := 11534336

/-- The length at the head of a buffer of at least four bytes. -/
def length (buffer : ByteArray) : Nat :=
  Body.littleEndianValue (buffer.extract 0 4).data.toList.reverse

/-- The four bytes of a length. -/
def lengthBytes (n : Nat) : ByteArray := Body.ofBytes (Body.littleEndian 4 n).reverse

/-- The frame of a message. -/
def encode (m : Message) : Except WireError ByteArray :=
  let body := Body.encode m
  let size := 1 + body.size
  if maxSize < size then .error (.messageTooLarge size)
  else .ok (lengthBytes size ++ Body.ofBytes [m.type.code] ++ body)

/-- The buffer after its first bytes. -/
def after (buffer : ByteArray) (n : Nat) : ByteArray := buffer.extract n buffer.size

/-- The message in a complete frame of a length, and what follows the bytes used. -/
def decodeComplete (buffer : ByteArray) (size : Nat) : Except WireError Message × ByteArray :=
  let b := buffer[4]?.getD 0
  match MessageType.ofCode? b with
  | none => (.error (.invalidMessageType b.toNat), after buffer 5)
  | some type =>
    let rest := after buffer (4 + size)
    match Body.decode type (buffer.extract 5 (4 + size)) with
    | .ok m => (.ok m, rest)
    | .error e => (.error (.serialization e.message), rest)

/-- The first message of a buffer, none while its frame is incomplete, and the buffer after it. -/
def decode (buffer : ByteArray) : Except WireError (Option Message) × ByteArray :=
  if buffer.size < 4 then (.ok none, buffer)
  else
    let size := length buffer
    if size = 0 then (.error (.protocol "empty frame"), buffer)
    else if maxSize < size then (.error (.messageTooLarge size), buffer)
    else if buffer.size < 4 + size then (.ok none, buffer)
    else
      let (r, rest) := decodeComplete buffer size
      (r.map some, rest)

end Frame

end LeaseQueue
