/-
What one recovery of expired leases has done.

* `SweepReport`: the tasks put back into the queue, the tasks failed for want of attempts, and the
  worker that held each lease;
* `SweepReport.sort`: both lists in queue order.
-/
import LeaseQueue.Task.Basic

namespace LeaseQueue

/-- The outcome of one sweep over expired leases. -/
structure SweepReport where
  /-- Tasks that are waiting again. -/
  requeued : List Task
  /-- Tasks that ran out of attempts. -/
  failed : List Task
  /-- The former owner of each lease, by task id. -/
  previousWorkers : SortedMap String
deriving DecidableEq, Repr

namespace SweepReport

/-- Nothing was recovered. -/
def empty : SweepReport := ⟨[], [], .empty⟩

/-- Whether nothing was recovered. -/
def isEmpty (r : SweepReport) : Bool := r.requeued.isEmpty && r.failed.isEmpty

/-- The number of recovered tasks. -/
def size (r : SweepReport) : Nat := r.requeued.length + r.failed.length

/-- Remember who held a lease; a lease without owner is not noted. -/
def recordOwner (r : SweepReport) (id : String) (worker : Option String) : SweepReport :=
  match worker with
  | some w => { r with previousWorkers := r.previousWorkers.insert id w }
  | none => r

/-- The worker that held the lease of a task. -/
def previousWorker (r : SweepReport) (id : String) : Option String := r.previousWorkers.get? id

/-- Add a recovered task, as it is stored now, with the former owner of its lease. -/
def add (r : SweepReport) (t : Task) (owner : Option String) : SweepReport :=
  let r := r.recordOwner t.id owner
  if t.status = .pending then { r with requeued := r.requeued ++ [t] }
  else { r with failed := r.failed ++ [t] }

/-- Put both lists in queue order. -/
def sort (r : SweepReport) : SweepReport :=
  { r with requeued := Task.sort r.requeued, failed := Task.sort r.failed }

end SweepReport

end LeaseQueue
