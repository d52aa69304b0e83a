/-
Whether brokers and servers can be reached from here.

* `Network`: what an attempt to connect finds;
* `Network.connect`: connecting to the other side, wherever it is;
* `Network.connectTo`: connecting to an address, a host and a port with a colon between them.

An address is looked at before the network is: it has to have a port, and a host which is no number
has to be looked up by its name.
-/
import LeaseQueue.Number.Decimal

namespace LeaseQueue

/-- What an attempt to connect finds. -/
inductive Network where
  /-- The other side listens. -/
  | reachable
  /-- There is no way to the other side, and nobody knows the names of hosts; the reasons are the
  system's. -/
  | unreachable (reason unknownName : String)
deriving DecidableEq, Repr

/-! ### Addresses -/

namespace Address

/-- The parts of an address around its last colon. -/
def split? (address : String) : Option (String × String) :=
  match address.splitOn ":" with
  | [] | [_] => none
  | parts => some (":".intercalate parts.dropLast, parts.getLastD "")

/-- A port in digits, which may follow a plus sign. -/
def port? (text : String) : Option UInt16 :=
  match Decimal.unsigned? text.toList with
  | some n => if n < UInt16.size then some (UInt16.ofNat n) else none
  | none => none

/-- Whether a host is a number of the version with points. -/
def isPointed (host : String) : Bool :=
  let parts := host.splitOn "."
  parts.length ≤ 4 && parts.all fun part =>
    !part.isEmpty && part.toList.all Char.isDigit &&
      Nat.ofDigitChars 10 part.toList 0 < if parts.length = 1 then UInt32.size else UInt8.size

/-- Whether a host is a number of the version with colons, in brackets or without. -/
def isColoned (host : String) : Bool :=
  host.contains ':' && host.toList.all fun c =>
    c.isDigit || "abcdefABCDEF:.[]".toList.contains c

/-- Whether a host can be reached without looking up its name elsewhere. -/
def isKnown (host : String) : Bool := host == "localhost" || isPointed host || isColoned host

end Address

/-! ### Connecting -/

namespace Network

/-- Connect to the other side, or report why that is impossible. -/
def connect {ε α : Type} (n : Network) (onFailure : String → ε) (other : α) : Except ε α :=
  match n with
  | reachable => .ok other
  | unreachable reason _ => .error (onFailure reason)

/-- Connect to the other side at an address. -/
def connectTo {ε α : Type} (n : Network) (address : String) (onFailure : String → ε) (other : α) :
    Except ε α :=
  match Address.split? address with
  | none => .error (onFailure "invalid socket address")
  | some (host, port) =>
    match Address.port? port, n with
    | none, _ => .error (onFailure "invalid port value")
    | some _, unreachable _ unknownName =>
      if Address.isKnown host then n.connect onFailure other else .error (onFailure unknownName)
    | some _, reachable => .ok other

end Network

end LeaseQueue
