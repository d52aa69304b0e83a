/-
Requests to a keyspace that a server holds, one command at a time.

* `Server.Dialogue`: where the exchange for one request stands; every stage but `finished` waits for
  the answer to one command, `Dialogue.command`;
* `Dialogue.start`, `Dialogue.hear`: the first stage of a request, and the stage after an answer;
* `Exchange`: a dialogue and the server; `Exchange.run` carries it on while other connections speak
  to the server in between;
* `Link`: a server as something that answers requests.

A batch without guards is sent as one group. A batch with guards watches their keys, reads every
guard, and sends the group only if all of them hold; when the group is called off, all this is
done again. A group without writes is not sent.
-/
import LeaseQueue.Keyspace.Stage
import LeaseQueue.Server.Execution

namespace LeaseQueue.Server

/-- Where the exchange for one request stands. -/
inductive Dialogue where
  /-- A hash is being read. -/
  | readingHash (key : String)
  /-- The least entry of a scored set is being taken. -/
  | popping (key : String)
  /-- The members of a scored set under a bound are being read. -/
  | ranging (key : String) (bound : Int64)
  /-- The members of a set are being read. -/
  | listing (key : String)
  /-- The keys of the guards are being put under watch. -/
  | watching (batch : Batch)
  /-- One guard is being read, others follow. -/
  | checking (batch : Batch) (guard : FieldGuard) (rest : List FieldGuard)
  /-- A guard does not hold, and the watch is being given up. -/
  | withdrawing
  /-- The group is being opened. -/
  | opening (batch : Batch)
  /-- A write is being put into the group, others follow; the first refusal is kept. -/
  | queueing (batch : Batch) (op : WriteOp) (rest : List WriteOp) (refusal : Option String)
  /-- The group is being run. -/
  | executing (batch : Batch) (refusal : Option String)
  /-- The group has been run, and the watch is being given up. -/
  | releasing
  /-- The exchange is over. -/
  | finished (result : Except StoreError Reply)

namespace Dialogue

/-- The exchange failed. -/
def fail (reason : String) : Dialogue := .finished (.error (.server reason))

/-- An answer that does not belong to the command. -/
def stray : Dialogue := fail "unexpected answer"

/-- The result of a batch. -/
def committed (applied : Bool) : Dialogue := .finished (.ok (.committed applied))

/-- The first stage of a request. -/
def start : Request → Dialogue
  | .readHash key => readingHash key
  | .popMin key => popping key
  | .below key bound => ranging key bound
  | .members key => listing key
  | .commit batch =>
    if !batch.guards.isEmpty then watching batch
    else if batch.ops.isEmpty then committed true
    else opening batch

/-- The command that a stage waits for. -/
def command : Dialogue → Option Command
  | readingHash key => some (.data (.hashGetAll key))
  | popping key => some (.data (.popMin key))
  | ranging key bound => some (.data (.rangeBelow key bound))
  | listing key => some (.data (.setMembers key))
  | watching batch => some (.watch batch.guardedKeys)
  | checking _ guard _ => some (.data (.hashGet guard.key guard.field))
  | withdrawing => some .unwatch
  | opening _ => some .multi
  | queueing _ op _ _ => some (.data (.write op))
  | executing _ _ => some .exec
  | releasing => some .unwatch
  | finished _ => none

/-! ### Answers -/

/-- The fields of a hash, which come as names and values in turn. -/
def pairs? : List String → Option (List (String × String))
  | [] => some []
  | [_] => none
  | k :: v :: rest => (pairs? rest).map ((k, v) :: ·)

/-- The texts of an answer that is a list of them. -/
def texts? : Answer → Option (List String)
  | .value (.texts l) => some l
  | .value .absent => some []
  | _ => none

/-- The entry taken out of a scored set: its member, then its score. -/
def popped (key : String) : List String → Except StoreError Reply
  | member :: score :: _ =>
    match Score.ofText? score with
    | some n => .ok (.popped (some (member, n)))
    | none => .error (.corrupted key s!"invalid score '{score}'")
  | _ => .ok (.popped none)

/-- Go on to the next guard, or to the writes. -/
def nextGuard (batch : Batch) : List FieldGuard → Dialogue
  | [] => if batch.ops.isEmpty then releasing else opening batch
  | guard :: rest => checking batch guard rest

/-- Go on to the next write, or run the group. -/
def nextWrite (batch : Batch) (refusal : Option String) : List WriteOp → Dialogue
  | [] => executing batch refusal
  | op :: rest => queueing batch op rest refusal

/-- The stage after the answer to a plain question. -/
def heard (a : Answer) (take : List String → Except StoreError Reply) : Dialogue :=
  match a, texts? a with
  | .refused reason, _ => fail reason
  | _, some l => .finished (take l)
  | _, none => stray

/-- The stage after the end of a group, if none of its commands was refused. -/
def afterGroup (batch : Batch) (a : Answer) : Dialogue :=
  match a with
  | .group _ => if batch.guards.isEmpty then committed true else releasing
  | .calledOff => if batch.guards.isEmpty then committed true else watching batch
  | .refused reason => fail reason
  | _ => stray

/-- The stage after the answer to the command of a stage. -/
def hear (a : Answer) : Dialogue → Dialogue
  | readingHash _ =>
    heard a fun l =>
      match pairs? l with
      | some fields => .ok (.fields (.ofList fields))
      | none => .error (.server "a field without a value")
  | popping key => heard a (popped key)
  | ranging _ _ | listing _ => heard a fun l => .ok (.ids l)
  | watching batch =>
    match a with
    | .done => nextGuard batch batch.guards
    | .refused reason => fail reason
    | _ => stray
  | checking batch guard rest =>
    match a with
    | .value (.text v) => if v = guard.expected then nextGuard batch rest else withdrawing
    | .value .absent => withdrawing
    | .refused reason => fail reason
    | _ => stray
  | withdrawing =>
    match a with
    | .refused reason => fail reason
    | _ => committed false
  | opening batch =>
    match a with
    | .refused reason => nextWrite batch (some reason) batch.ops
    | _ => nextWrite batch none batch.ops
  | queueing batch _ rest refusal =>
    match a with
    | .refused reason => nextWrite batch (refusal.or (some reason)) rest
    | _ => nextWrite batch refusal rest
  | executing batch refusal =>
    match refusal with
    | some reason => fail reason
    | none => afterGroup batch a
  | releasing =>
    match a with
    | .refused reason => fail reason
    | _ => committed true
  | finished r => finished r

/-- The result of a dialogue that is over. -/
def result? : Dialogue → Option (Except StoreError Reply)
  | finished r => some r
  | _ => none

end Dialogue

/-! ### Dialogues among other connections -/

/-- Who speaks to the server next. -/
inductive Turn where
  /-- The connection of the dialogue. -/
  | own
  /-- Some other connection. -/
  | other (connection : Nat) (command : Command)
  /-- Some other connection, with a command of its own. -/
  | edit (edit : Edit)

/-- A dialogue and the server it is held with. -/
structure Exchange where
  dialogue : Dialogue
  server : Server

namespace Exchange

/-- The next command of the dialogue on connection `n`, if it is not over. -/
def speak (n : Nat) (e : Exchange) : Exchange :=
  match e.dialogue.command with
  | some c => let (a, server) := e.server.execute n c; ⟨e.dialogue.hear a, server⟩
  | none => e

/-- One turn. No other connection speaks for connection `n`. -/
def turn (n : Nat) (e : Exchange) : Turn → Exchange
  | .own => e.speak n
  | .other m c => if m = n then e else { e with server := (e.server.execute m c).2 }
  | .edit edit => { e with server := e.server.edit edit }

/-- Turns in order. -/
def run (n : Nat) (e : Exchange) (turns : List Turn) : Exchange := turns.foldl (turn n) e

end Exchange

/-! ### Undisturbed dialogues -/

/-- A server to which only one connection speaks. -/
structure Link where
  server : Server
  connection : Nat

namespace Link

/-- The command that opens a connection. -/
def greeting : Command := .data .ping

/-- Connect to a server, which has to answer the greeting. -/
def connect (server : Server) (n : Nat) : Except StoreError Link :=
  match server.execute n greeting with
  | (.value (.text _), server) => .ok ⟨server, n⟩
  | (.refused reason, _) => .error (.server reason)
  | _ => .error (.server "unexpected answer")

/-- The number of commands for one request when a group is called off at most once. -/
def patience : Request → Nat
  | .commit batch => 2 * (batch.guards.length + batch.ops.length + 4)
  | _ => 1

/-- The answer to a request, and the server after it. Nobody else changes a watched key, so a group
is called off at most once, because of a watch that a failed request has left behind. -/
def answer (l : Link) (q : Request) : Except StoreError Reply × Link :=
  let e := Exchange.run l.connection ⟨.start q, l.server⟩ (List.replicate (patience q) .own)
  (e.dialogue.result?.getD (.error Stage.strayReply), { l with server := e.server })

instance : Answers Link where
  answer := answer
  extent l := l.server.keyspace.extent

end Link

end LeaseQueue.Server
