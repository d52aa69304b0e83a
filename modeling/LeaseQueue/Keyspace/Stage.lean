/-
Calls on a keyspace, one atomic request at a time.

* `Stage`: where a running call stands; every stage but `finished` waits for the answer to one
  request, `Stage.request`;
* `Stage.start`: the first stage of a call;
* `Stage.resume`: the stage after an answer, or after a request that failed;
* `Stage.run`: a call carried on until it is finished, against anything that answers requests.

A call that loses a race reads again and tries anew, `Stage.maxTries` times in all. A popped id
whose lease fails goes back into the queue with its old score before the failure is reported.
-/
import LeaseQueue.Keyspace.Layout
import LeaseQueue.Store.Storage

namespace LeaseQueue

/-- The fixed data of one sweep over expired leases. -/
structure Sweep where
  now : Timestamp
  threshold : Timestamp
  maxAttempts : UInt32
deriving DecidableEq, Repr

/-- Where a running call stands. -/
inductive Stage where
  /-- A new task is being written. -/
  | storing (t : Task)
  /-- The next waiting id is being popped. -/
  | popping (worker : String)
  /-- The task of a popped id is being read. -/
  | claiming (worker : String) (id : String) (score : Int64) (tries : Nat)
  /-- A lease of a popped task is being written. -/
  | leasing (worker : String) (id : String) (score : Int64) (tries : Nat) (read claimed : Task)
  /-- A popped id is being put back because of a failure. -/
  | restoring (id : String) (score : Int64) (error : StoreError)
  /-- The task to finish is being read. -/
  | acking (id : String) (success : Bool) (result : Option String) (tries : Nat)
  /-- A finished task is being written. -/
  | finishing (id : String) (success : Bool) (result : Option String) (tries : Nat)
      (read finished : Task)
  /-- The task to refresh is being read. -/
  | beating (id : String) (tries : Nat)
  /-- A refreshed task is being written. -/
  | refreshing (id : String) (tries : Nat) (read touched : Task)
  /-- Overdue ids are being looked up. -/
  | scanning (sweep : Sweep)
  /-- The task of an overdue id is being read. -/
  | inspecting (sweep : Sweep) (id : String) (rest : List String) (report : SweepReport)
  /-- An id that holds no lease is being dropped from the leases. -/
  | forgetting (sweep : Sweep) (id : String) (rest : List String) (report : SweepReport)
  /-- The end of a lease is being written. -/
  | expiring (sweep : Sweep) (rest : List String) (report : SweepReport) (read expired : Task)
  /-- One task is being read. -/
  | fetching (id : String)
  /-- The ids to list are being looked up. -/
  | indexing (status : Option Status)
  /-- The task of a listed id is being read. -/
  | collecting (status : Option Status) (id : String) (rest : List String) (found : List Task)
  /-- The call is over. -/
  | finished (result : Except StoreError Outcome)

namespace Stage

/-- How often a guarded write is tried. -/
def maxTries : Nat := 16

/-- The call failed. -/
def fail (e : StoreError) : Stage := .finished (.error e)

/-- The error for an answer that does not belong to the request. -/
def strayReply : StoreError := .io "unexpected reply"

/-- The first stage of a call at a time; `id` is the id of a task that the call may create. -/
def start (id : String) (now : Timestamp) : Call → Stage
  | .enqueue type payload metadata =>
    match Task.new id now type payload metadata with
    | .ok t => .storing t
    | .error e => fail (.task e)
  | .dequeue worker => .popping worker
  | .ack id success result => .acking id success result maxTries
  | .list status => .indexing status
  | .get id => .fetching id
  | .heartbeat id => .beating id maxTries
  | .recover maxAge maxAttempts =>
    .scanning ⟨now, Timestamp.before now maxAge, maxAttempts⟩

/-- The request that a stage waits for. -/
def request (l : Layout) : Stage → Option Request
  | storing t => some (.commit (l.insertion t))
  | popping _ => some (.popMin l.pendingKey)
  | claiming _ id _ _ => some (.readHash (l.taskKey id))
  | leasing _ _ _ _ read claimed => some (.commit (l.transition read claimed))
  | restoring id score _ => some (.commit (l.restore id score))
  | acking id _ _ _ => some (.readHash (l.taskKey id))
  | finishing _ _ _ _ read done => some (.commit (l.transition read done))
  | beating id _ => some (.readHash (l.taskKey id))
  | refreshing id _ read touched => some (.commit (l.refresh id read touched))
  | scanning sweep => some (.below l.inProgressKey sweep.threshold)
  | inspecting _ id _ _ => some (.readHash (l.taskKey id))
  | forgetting _ id _ _ => some (.commit (l.forget id))
  | expiring _ _ _ read expired => some (.commit (l.transition read expired))
  | fetching id => some (.readHash (l.taskKey id))
  | indexing status => some (.members (l.indexKey status))
  | collecting _ id _ _ => some (.readHash (l.taskKey id))
  | finished _ => none

/-- Go on with the next overdue id, or report. -/
def nextOverdue (sweep : Sweep) (report : SweepReport) : List String → Stage
  | [] => .finished (.ok (.swept report.sort))
  | id :: rest => .inspecting sweep id rest report

/-- Go on with the next listed id, or return the tasks in queue order. -/
def nextListed (status : Option Status) (found : List Task) : List String → Stage
  | [] => .finished (.ok (.tasks (Task.sort found)))
  | id :: rest => .collecting status id rest found

/-- Read the task of a popped id again, or give up. -/
def retryClaim (worker id : String) (score : Int64) : Nat → Stage
  | 0 => .restoring id score (.contention id)
  | tries + 1 => .claiming worker id score (tries + 1)

/-- The popped task has been read. A missing, unreadable or no longer waiting task is passed
over. -/
def claimRead (now : Timestamp) (worker id : String) (score : Int64) (tries : Nat) :
    Except StoreError (Option Task) → Stage
  | .ok (some t) =>
    if t.status = .pending then .leasing worker id score (tries - 1) t (t.claim worker now)
    else .popping worker
  | .ok none => .popping worker
  | .error (.corrupted _ _) => .popping worker
  | .error e => .restoring id score e

/-- The task to finish has been read. -/
def ackRead (now : Timestamp) (id : String) (success : Bool) (result : Option String)
    (tries : Nat) : Except StoreError (Option Task) → Stage
  | .ok (some t) =>
    match t.finish success result now with
    | .ok done => .finishing id success result (tries - 1) t done
    | .error e => fail (.task e)
  | .ok none => fail (.notFound id)
  | .error e => fail e

/-- The task to refresh has been read. -/
def beatRead (now : Timestamp) (id : String) (tries : Nat) :
    Except StoreError (Option Task) → Stage
  | .ok (some t) => .refreshing id (tries - 1) t (t.touch now)
  | .ok none => fail (.notFound id)
  | .error e => fail e

/-- The task of an overdue id has been read. A task that cannot be read is left alone. -/
def overdueRead (sweep : Sweep) (id : String) (rest : List String) (report : SweepReport) :
    Except StoreError (Option Task) → Stage
  | .ok (some t) =>
    if t.isOverdue sweep.threshold then
      .expiring sweep rest report t (t.expire sweep.maxAttempts sweep.now)
    else if t.status = .inProgress then nextOverdue sweep report rest
    else .forgetting sweep id rest report
  | .ok none => .forgetting sweep id rest report
  | .error _ => nextOverdue sweep report rest

/-- The task of a listed id has been read. -/
def listedRead (status : Option Status) (rest : List String) (found : List Task) :
    Except StoreError (Option Task) → Stage
  | .ok (some t) =>
    if status.all (· = t.status) then nextListed status (found ++ [t]) rest
    else nextListed status found rest
  | .ok none => nextListed status found rest
  | .error e => fail e

/-- The task in an answer to a `readHash` of `key`. -/
def loaded (key : String) : Except StoreError Reply → Except StoreError (Option Task)
  | .ok (.fields hash) => Layout.decode? key hash
  | .ok _ => .error strayReply
  | .error e => .error e

/-- The stage after the answer to the request of a stage, at a time. -/
def resume (l : Layout) (now : Timestamp) (answer : Except StoreError Reply) : Stage → Stage
  | storing t =>
    match answer with
    | .ok _ => .finished (.ok (.task t))
    | .error e => fail e
  | popping worker =>
    match answer with
    | .ok (.popped (some (id, score))) => .claiming worker id score maxTries
    | .ok (.popped none) => .finished (.ok (.found none))
    | .ok _ => fail strayReply
    | .error e => fail e
  | claiming worker id score tries =>
    claimRead now worker id score tries (loaded (l.taskKey id) answer)
  | leasing worker id score tries _ claimed =>
    match answer with
    | .ok (.committed true) => .finished (.ok (.found (some claimed)))
    | .ok (.committed false) => retryClaim worker id score tries
    | .ok _ => .restoring id score strayReply
    | .error e => .restoring id score e
  | restoring _ _ error => fail error
  | acking id success result tries =>
    ackRead now id success result tries (loaded (l.taskKey id) answer)
  | finishing id success result tries _ done =>
    match answer with
    | .ok (.committed true) => .finished (.ok (.task done))
    | .ok (.committed false) =>
      if tries = 0 then fail (.contention id) else .acking id success result tries
    | .ok _ => fail strayReply
    | .error e => fail e
  | beating id tries => beatRead now id tries (loaded (l.taskKey id) answer)
  | refreshing id tries _ touched =>
    match answer with
    | .ok (.committed true) => .finished (.ok (.task touched))
    | .ok (.committed false) => if tries = 0 then fail (.contention id) else .beating id tries
    | .ok _ => fail strayReply
    | .error e => fail e
  | scanning sweep =>
    match answer with
    | .ok (.ids l) => nextOverdue sweep .empty l
    | .ok _ => fail strayReply
    | .error e => fail e
  | inspecting sweep id rest report =>
    overdueRead sweep id rest report (loaded (l.taskKey id) answer)
  | forgetting sweep _ rest report => nextOverdue sweep report rest
  | expiring sweep rest report read expired =>
    match answer with
    | .ok (.committed true) => nextOverdue sweep (report.add expired read.worker) rest
    | _ => nextOverdue sweep report rest
  | fetching id => .finished ((loaded (l.taskKey id) answer).map .found)
  | indexing status =>
    match answer with
    | .ok (.ids l) => nextListed status [] l
    | .ok _ => fail strayReply
    | .error e => fail e
  | collecting status id rest found =>
    listedRead status rest found (loaded (l.taskKey id) answer)
  | finished r => .finished r

end Stage

/-- Something that answers requests one at a time. -/
class Answers (σ : Type) where
  /-- The answer to a request, which may also fail, and the state after it. -/
  answer : σ → Request → Except StoreError Reply × σ
  /-- A bound on the number of entries that one call can meet. -/
  extent : σ → Nat

namespace Stage

/-- The result of a call that is over. -/
def result : Stage → Except StoreError Outcome
  | finished r => r
  | _ => .error (.io "unfinished call")

/-- Carry a call on for at most `fuel` requests. -/
def runFor {σ : Type} [Answers σ] (l : Layout) (now : Timestamp) :
    (fuel : Nat) → Stage → σ → Except StoreError Outcome × σ
  | 0, stage, s => (stage.result, s)
  | fuel + 1, stage, s =>
    match stage.request l with
    | none => (stage.result, s)
    | some q =>
      let (a, s) := Answers.answer s q
      runFor l now fuel (stage.resume l now a) s

/-- Carry a call on until it is finished. Every entry met costs at most two requests per try and
one to put it back. -/
def run {σ : Type} [Answers σ] (l : Layout) (now : Timestamp) (stage : Stage) (s : σ) :
    Except StoreError Outcome × σ :=
  runFor l now ((2 * maxTries + 2) * (Answers.extent s + 2)) stage s

end Stage

end LeaseQueue
