/-
A server that executes the commands of all its connections one at a time.

* `Server.Session`: what the server knows about one connection: watched keys, whether one of them
  has changed since, and the group that is being collected;
* `Server`: the data and all sessions;
* `Server.execute`: one command of one connection. A group is run as a whole; it is called off iff a
  watched key has been changed since it was watched;
* `Server.edit`: one step of a connection whose commands are none of these, of which is known only
  which keys it changes.
-/
import LeaseQueue.Server.Command

namespace LeaseQueue

/-- What the server knows about one connection. -/
structure Server.Session where
  watched : List String
  /-- Whether a watched key has been changed since it was watched. -/
  disturbed : Bool
  /-- The group being collected, if there is one. -/
  group : Option (List Server.Command)
  /-- Whether a command of the group has been refused. -/
  spoiled : Bool
deriving DecidableEq, Repr

/-- The state of a server. -/
structure Server where
  keyspace : Keyspace
  session : Nat → Server.Session

namespace Server

/-- The session of a connection that has just been opened. -/
def Session.fresh : Session := ⟨[], false, none, false⟩

/-- A server to which nobody has spoken. -/
def ofKeyspace (ks : Keyspace) : Server := ⟨ks, fun _ => .fresh⟩

/-- Replace the session of a connection. -/
def setSession (s : Server) (n : Nat) (session : Session) : Server :=
  { s with session := fun m => if m = n then session else s.session m }

/-- A key has been changed. -/
def Session.disturb (key : String) (session : Session) : Session :=
  if session.watched.contains key then { session with disturbed := true } else session

/-- Tell all sessions of a changed key. -/
def disturb (s : Server) : Option String → Server
  | some key => { s with session := fun n => (s.session n).disturb key }
  | none => s

/-- Carry out a command on the data. -/
def carryOut (s : Server) (c : DataCommand) : Value × Server :=
  let (v, keyspace) := c.run s.keyspace
  (v, { s.disturb (c.changed? s.keyspace) with keyspace })

/-- Carry out one command of a group. Keys are no longer watched when a group is run, so nothing is
left to do for the commands about them. -/
def carryOutGrouped (s : Server) : Command → Value × Server
  | .data c => s.carryOut c
  | _ => (.text "OK", s)

/-- Carry out the commands of a group in order. -/
def carryOutAll (s : Server) : List Command → List Value × Server
  | [] => ([], s)
  | c :: rest =>
    let (v, s) := s.carryOutGrouped c
    let (vs, s) := s.carryOutAll rest
    (v :: vs, s)

/-- The refusal of a command that lacks words. -/
def incomplete (c : Command) : Answer :=
  let name := (c.words.headD "").toLower
  .refused s!"ERR wrong number of arguments for '{name}' command"

/-- The end of a group, whose session starts anew. -/
def runGroup (s : Server) (n : Nat) (session : Session) (group : List Command) :
    Answer × Server :=
  let s := s.setSession n .fresh
  if session.spoiled then
    (.refused "EXECABORT Transaction discarded because of previous errors.", s)
  else if session.disturbed then (.calledOff, s)
  else
    let (vs, s) := s.carryOutAll group
    (.group vs, s)

/-- One command of a connection that collects a group. -/
def collect (s : Server) (n : Nat) (session : Session) (group : List Command) (c : Command) :
    Answer × Server :=
  if !c.isComplete then (incomplete c, s.setSession n { session with spoiled := true })
  else
    match c with
    | .exec => s.runGroup n session group
    | .multi => (.refused "ERR MULTI calls can not be nested", s)
    | .watch _ => (.refused "ERR WATCH inside MULTI is not allowed", s)
    | c => (.queued, s.setSession n { session with group := some (group ++ [c]) })

/-- One command of a connection that collects no group. -/
def serve (s : Server) (n : Nat) (session : Session) (c : Command) : Answer × Server :=
  if !c.isComplete then (incomplete c, s)
  else
    match c with
    | .data c => let (v, s) := s.carryOut c; (.value v, s)
    | .watch keys => (.done, s.setSession n { session with watched := session.watched ++ keys })
    | .unwatch => (.done, s.setSession n .fresh)
    | .multi => (.done, s.setSession n { session with group := some [] })
    | .exec => (.refused "ERR EXEC without MULTI", s)

/-- One command of a connection. -/
def execute (s : Server) (n : Nat) (c : Command) : Answer × Server :=
  let session := s.session n
  match session.group with
  | some group => s.collect n session group c
  | none => s.serve n session c

/-! ### Other commands -/

/-- A command that is not among those above, or a group with such commands. -/
structure Edit where
  run : Keyspace → Keyspace
  /-- The keys that it changes. -/
  changed : Keyspace → List String
  hash_run : ∀ ks, ∀ key ∉ changed ks, (run ks).hash key = ks.hash key
  scoredSet_run : ∀ ks, ∀ key ∉ changed ks, (run ks).scoredSet key = ks.scoredSet key
  members_run : ∀ ks, ∀ key ∉ changed ks, (run ks).members key = ks.members key

/-- Carry out such a command, and tell all sessions of the changed keys. -/
def edit (s : Server) (e : Edit) : Server :=
  { (e.changed s.keyspace).foldl (fun s key => s.disturb (some key)) s with
    keyspace := e.run s.keyspace }

end Server

end LeaseQueue
