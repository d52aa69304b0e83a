/-
What a dispatched task asks an agent to do.

* `Envelope`: an agent, an action and its arguments, or a text that is no JSON object;
* `Envelope.encode`, `Envelope.metadata`: the payload and the tags stored with the task;
* `Envelope.decode`: reading them back, which never fails: an empty or missing agent or action is
  taken from the tags, arguments that are no object are wrapped or are the remaining fields;
* `Envelope.toJson`, `Envelope.ofJsonText?`: the envelope itself as a JSON text;
* `DispatchedTask`: a task with its envelope opened.
-/
import LeaseQueue.Task.Json

namespace LeaseQueue

/-- A request to an agent. -/
inductive Envelope where
  /-- Arguments as the members of an object. -/
  | structured (agent action : String) (payload : SortedMap Json)
  /-- A text as it was found. -/
  | raw (agent action text : String)

namespace Envelope

/-- The agent where none is named. -/
def unknownAgent : String := "unknown"

/-- The action where none is named. -/
def standardAction : String := "execute"

/-- Who is asked. -/
def agent : Envelope → String
  | structured agent _ _ => agent
  | raw agent _ _ => agent

/-- What is asked. -/
def action : Envelope → String
  | structured _ action _ => action
  | raw _ action _ => action

/-- The arguments; a raw text stands under `raw`. -/
def payload : Envelope → SortedMap Json
  | structured _ _ payload => payload
  | raw _ _ text => .ofList [("raw", .string text)]

/-- The tags stored with the task. -/
def metadata (e : Envelope) : Metadata := .ofList [("action", e.action), ("agent", e.agent)]

/-- The payload stored on the task. -/
def encode : Envelope → String
  | structured agent action payload =>
    (Json.object
      [("action", .string action), ("agent", .string agent), ("payload", .ofMap payload)]).write
  | raw _ _ text => text

/-- The text of a member that is a string other than the empty one. -/
def presentString (m : SortedMap Json) (k : String) : Option String :=
  ((m.get? k).bind Json.asString?).filter (· ≠ "")

/-- The arguments among the members of a stored object. -/
def arguments (m : SortedMap Json) : SortedMap Json :=
  let rest := m.erase "payload"
  match m.get? "payload" with
  | some (.object members) => .ofList members
  | none | some .null => (rest.erase "agent").erase "action"
  | some v => .ofList [("value", v)]

/-- The envelope of a stored payload and its tags. -/
def decode (payload : String) (metadata : Metadata) : Envelope :=
  let agent := metadata.getD "agent" unknownAgent
  let action := metadata.getD "action" standardAction
  match (Json.read? payload).bind Json.asMap? with
  | none => raw agent action payload
  | some m =>
    structured ((presentString m "agent").getD agent) ((presentString m "action").getD action)
      (arguments m)

/-! ### The envelope as JSON -/

/-- The kind first, then the fields. -/
def toJson : Envelope → Json
  | structured agent action payload =>
    .object
      [("kind", .string "structured"), ("agent", .string agent), ("action", .string action),
       ("payload", .ofMap payload)]
  | raw agent action text =>
    .object
      [("kind", .string "raw"), ("agent", .string agent), ("action", .string action),
       ("raw", .string text)]

/-- The name of the last field of a kind. -/
def lastField? : String → Option String
  | "structured" => some "payload"
  | "raw" => some "raw"
  | _ => none

/-- The envelope of a kind and the values of its three fields. -/
def ofFields? (kind : String) (agent action last : Json) : Option Envelope := do
  let agent ← agent.asString?
  let action ← action.asString?
  match kind with
  | "structured" => (Json.asMap? last.canonical).map (structured agent action)
  | "raw" => last.asString?.map (raw agent action)
  | _ => none

/-- The only value of a name among members. -/
def onlyMember? (members : List (String × Json)) (name : String) : Option Json :=
  match members.filter (·.1 == name) with
  | [(_, v)] => some v
  | _ => none

/-- The envelope that a JSON text describes, as an object with a kind or as a list of the kind and
the three fields. -/
def ofJsonText? (text : String) : Option Envelope :=
  match Json.parse? text with
  | some (.object members) => do
    let kind ← (← onlyMember? members "kind").asString?
    let last ← lastField? kind
    ofFields? kind (← onlyMember? members "agent") (← onlyMember? members "action")
      (← onlyMember? members last)
  | some (.array [.string kind, agent, action, last]) => ofFields? kind agent action last
  | _ => none

end Envelope

/-- A task with its envelope opened. -/
structure DispatchedTask where
  id : String
  envelope : Envelope
  status : Status
  attempts : UInt32

namespace DispatchedTask

/-- The dispatched view of a task. -/
def ofTask (t : Task) : DispatchedTask :=
  { id := t.id, envelope := .decode t.payload t.metadata, status := t.status,
    attempts := t.attempts }

/-- One flat object, keys in increasing order. -/
def view (t : DispatchedTask) : Json :=
  .object
    [("action", .string t.envelope.action), ("agent", .string t.envelope.agent),
     ("attempts", .whole t.attempts.toNat), ("id", .string t.id),
     ("payload", .ofMap t.envelope.payload), ("status", t.status.toJson)]

/-- The fields with the envelope as an object of its own. -/
def toJson (t : DispatchedTask) : Json :=
  .object
    [("id", .string t.id), ("envelope", t.envelope.toJson), ("status", t.status.toJson),
     ("attempts", .whole t.attempts.toNat)]

end DispatchedTask

end LeaseQueue
