/-
What a server of keyed data and its clients say to each other.

* `Server.DataCommand`: a command on the data; `DataCommand.run`: its effect and its answer;
  `DataCommand.changed?`: the key whose data it changes;
* `Server.Command`: the data commands, and those that group and guard them;
* `Server.Value`, `Server.Answer`: what comes back;
* `Server.Command.words`: a command as it is sent.
-/
import LeaseQueue.Keyspace.Basic
import LeaseQueue.Server.Score

namespace LeaseQueue.Server

/-- A value in an answer. -/
inductive Value where
  /-- Nothing is there. -/
  | absent
  /-- How many entries are new or gone. -/
  | count (n : Nat)
  | text (s : String)
  | texts (l : List String)
deriving DecidableEq, Repr

/-! ### Commands on the data -/

/-- A command on the data. -/
inductive DataCommand where
  /-- Show that the server is there. -/
  | ping
  | hashGetAll (key : String)
  | hashGet (key field : String)
  | popMin (key : String)
  /-- The members of a scored set under a bound. -/
  | rangeBelow (key : String) (bound : Int64)
  | setMembers (key : String)
  | write (op : WriteOp)
deriving DecidableEq, Repr

/-- A write as it is sent. -/
def writeWords : WriteOp → List String
  | .hashSet key fields => "HSET" :: key :: fields.flatMap fun f => [f.1, f.2]
  | .scoredAdd key member score => ["ZADD", key, Score.text score, member]
  | .scoredRemove key member => ["ZREM", key, member]
  | .setAdd key member => ["SADD", key, member]
  | .setRemove key member => ["SREM", key, member]

/-- How many entries a write adds, or takes away if that is what it does. -/
def writeCount (ks : Keyspace) : WriteOp → Nat
  | .hashSet key fields => ((ks.hash key).insertAll fields).size - (ks.hash key).size
  | .scoredAdd key member _ => if ((ks.scoredSet key).score? member).isSome then 0 else 1
  | .scoredRemove key member => if ((ks.scoredSet key).score? member).isSome then 1 else 0
  | .setAdd key member => if (ks.members key).contains member then 0 else 1
  | .setRemove key member => if (ks.members key).contains member then 1 else 0

namespace DataCommand

/-- A command as it is sent. -/
def words : DataCommand → List String
  | ping => ["PING"]
  | hashGetAll key => ["HGETALL", key]
  | hashGet key field => ["HGET", key, field]
  | popMin key => ["ZPOPMIN", key]
  | rangeBelow key bound => ["ZRANGEBYSCORE", key, "-inf", "(" ++ Score.text bound]
  | setMembers key => ["SMEMBERS", key]
  | write op => writeWords op

/-- Whether a command has all its words: fields to set are not optional. -/
def isComplete : DataCommand → Bool
  | write (.hashSet _ fields) => !fields.isEmpty
  | _ => true

/-- The key whose data a command changes, if it changes any. Setting fields counts as a change
whatever they were before. -/
def changed? (ks : Keyspace) : DataCommand → Option String
  | popMin key => if (ks.scoredSet key).ordered.isEmpty then none else some key
  | write (.hashSet key _) => some key
  | write (.scoredAdd key member score) =>
    if (ks.scoredSet key).score? member = some score then none else some key
  | write (.scoredRemove key member) =>
    if ((ks.scoredSet key).score? member).isSome then some key else none
  | write (.setAdd key member) => if (ks.members key).contains member then none else some key
  | write (.setRemove key member) => if (ks.members key).contains member then some key else none
  | _ => none

/-- The answer to a command, and the data after it. -/
def run (ks : Keyspace) : DataCommand → Value × Keyspace
  | ping => (.text "PONG", ks)
  | hashGetAll key => (.texts ((ks.hash key).entries.flatMap fun e => [e.1, e.2]), ks)
  | hashGet key field =>
    (match (ks.hash key).get? field with
      | some v => .text v
      | none => .absent, ks)
  | popMin key =>
    match ks.popMin key with
    | (some (member, score), ks) => (.texts [member, Score.text score], ks)
    | (none, ks) => (.texts [], ks)
  | rangeBelow key bound => (.texts ((ks.scoredSet key).below bound), ks)
  | setMembers key => (.texts (ks.members key), ks)
  | write op => (.count (writeCount ks op), ks.apply op)

end DataCommand

/-! ### All commands -/

/-- A command. -/
inductive Command where
  | data (c : DataCommand)
  /-- Call off the next group if one of these keys changes before it. -/
  | watch (keys : List String)
  /-- Call nothing off. -/
  | unwatch
  /-- Collect the commands that follow in a group. -/
  | multi
  /-- Run the group. -/
  | exec
deriving DecidableEq, Repr

namespace Command

/-- A command as it is sent. -/
def words : Command → List String
  | data c => c.words
  | watch keys => "WATCH" :: keys
  | unwatch => ["UNWATCH"]
  | multi => ["MULTI"]
  | exec => ["EXEC"]

/-- Whether a command has all its words. -/
def isComplete : Command → Bool
  | data c => c.isComplete
  | watch keys => !keys.isEmpty
  | _ => true

end Command

/-- An answer of the server. -/
inductive Answer where
  /-- A command has been carried out that has no other answer. -/
  | done
  /-- A command has been put into a group. -/
  | queued
  | value (v : Value)
  /-- The answers to the commands of a group. -/
  | group (l : List Value)
  /-- A group has been called off. -/
  | calledOff
  | refused (reason : String)
deriving DecidableEq, Repr

end LeaseQueue.Server
