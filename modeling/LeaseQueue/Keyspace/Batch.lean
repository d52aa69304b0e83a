/-
Batches of writes that are applied all or not at all.

* `WriteOp`: one write;
* `FieldGuard`: a condition on one field of a hash;
* `Batch`: guards and writes; the writes happen only if every guard holds;
* `Batch.guardedKeys`: the keys that the guards name, each once, in order of first mention.
-/

namespace LeaseQueue

/-- One write. -/
inductive WriteOp where
  /-- Set fields of a hash. -/
  | hashSet (key : String) (fields : List (String × String))
  /-- Give a member of a scored set a score. -/
  | scoredAdd (key member : String) (score : Int64)
  /-- Take a member out of a scored set. -/
  | scoredRemove (key member : String)
  /-- Put a member into a set. -/
  | setAdd (key member : String)
  /-- Take a member out of a set. -/
  | setRemove (key member : String)
deriving DecidableEq, Repr

/-- The condition that a field of a hash has a given text. -/
structure FieldGuard where
  key : String
  field : String
  expected : String
deriving DecidableEq, Repr

/-- Guarded writes. -/
structure Batch where
  guards : List FieldGuard
  ops : List WriteOp
deriving DecidableEq, Repr

namespace Batch

/-- Writes without guards. -/
def ofOps (ops : List WriteOp) : Batch := ⟨[], ops⟩

/-- Add writes after those already there. -/
def add (b : Batch) (ops : List WriteOp) : Batch := { b with ops := b.ops ++ ops }

/-- Each key named by a guard, in order of first mention. -/
def guardedKeys (b : Batch) : List String :=
  b.guards.foldl (fun keys g => if keys.contains g.key then keys else keys ++ [g.key]) []

end Batch

end LeaseQueue
