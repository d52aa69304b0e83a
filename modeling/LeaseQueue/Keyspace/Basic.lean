/-
The data behind named keys: hashes, scored sets and sets.

* `Keyspace`: the three kinds of data, each under its own keys; a key that is not there reads as
  empty;
* `Keyspace.holds`, `Keyspace.apply`: the condition of a guard and the effect of a write;
* `Keyspace.commit`: a batch, applied if all its guards hold;
* `Request`, `Reply`, `Keyspace.answer`: the five requests that a client can make, each of them
  atomic.
-/
import LeaseQueue.Keyspace.ScoredSet
import LeaseQueue.Keyspace.Batch

namespace LeaseQueue

/-- Hashes, scored sets and sets under text keys. -/
structure Keyspace where
  hashes : SortedMap (SortedMap String)
  scored : SortedMap ScoredSet
  sets : SortedMap (SortedMap Unit)
deriving DecidableEq, Repr

namespace Keyspace

/-- No data at all. -/
def empty : Keyspace := ⟨.empty, .empty, .empty⟩

/-- The fields of a hash. -/
def hash (ks : Keyspace) (key : String) : SortedMap String := ks.hashes.getD key .empty

/-- A scored set. -/
def scoredSet (ks : Keyspace) (key : String) : ScoredSet := ks.scored.getD key .empty

/-- The members of a set, in increasing order. -/
def members (ks : Keyspace) (key : String) : List String := (ks.sets.getD key .empty).keys

/-- Whether a guard's field has the expected text. -/
def holds (ks : Keyspace) (g : FieldGuard) : Bool := (ks.hash g.key).get? g.field == some g.expected

/-- The effect of one write. -/
def apply (ks : Keyspace) : WriteOp → Keyspace
  | .hashSet key fields =>
    { ks with hashes := ks.hashes.insert key ((ks.hash key).insertAll fields) }
  | .scoredAdd key member score =>
    { ks with scored := ks.scored.insert key ((ks.scoredSet key).add member score) }
  | .scoredRemove key member =>
    match ks.scored.get? key with
    | some s => { ks with scored := ks.scored.insert key (s.remove member) }
    | none => ks
  | .setAdd key member =>
    { ks with sets := ks.sets.insert key ((ks.sets.getD key .empty).insert member ()) }
  | .setRemove key member =>
    match ks.sets.get? key with
    | some s => { ks with sets := ks.sets.insert key (s.erase member) }
    | none => ks

/-- Apply the writes of a batch if all its guards hold, and tell whether they do. -/
def commit (ks : Keyspace) (b : Batch) : Bool × Keyspace :=
  if b.guards.all ks.holds then (true, b.ops.foldl apply ks) else (false, ks)

/-- Take the least entry out of a scored set. -/
def popMin (ks : Keyspace) (key : String) : Option (String × Int64) × Keyspace :=
  match (ks.scoredSet key).popMin with
  | some (entry, rest) => (some entry, { ks with scored := ks.scored.insert key rest })
  | none => (none, ks)

/-- The number of entries in all sets, scored or not. -/
def extent (ks : Keyspace) : Nat :=
  ks.scored.entries.foldr (fun e n => e.2.size + n) 0 +
    ks.sets.entries.foldr (fun e n => e.2.size + n) 0

end Keyspace

/-- An atomic request to a keyspace. -/
inductive Request where
  /-- All fields of a hash. -/
  | readHash (key : String)
  /-- Take the least entry out of a scored set. -/
  | popMin (key : String)
  /-- The members of a scored set with a score under a bound. -/
  | below (key : String) (bound : Int64)
  /-- The members of a set. -/
  | members (key : String)
  /-- Apply a batch if its guards hold. -/
  | commit (batch : Batch)
deriving DecidableEq, Repr

/-- The answer to a request. -/
inductive Reply where
  | fields (hash : SortedMap String)
  | popped (entry : Option (String × Int64))
  | ids (l : List String)
  | committed (applied : Bool)
deriving DecidableEq, Repr

/-- The answer of a keyspace, and the keyspace after the request. -/
def Keyspace.answer (ks : Keyspace) : Request → Reply × Keyspace
  | .readHash key => (.fields (ks.hash key), ks)
  | .popMin key => let (entry, ks) := ks.popMin key; (.popped entry, ks)
  | .below key bound => (.ids ((ks.scoredSet key).below bound), ks)
  | .members key => (.ids (ks.members key), ks)
  | .commit batch => let (applied, ks) := ks.commit batch; (.committed applied, ks)

end LeaseQueue
