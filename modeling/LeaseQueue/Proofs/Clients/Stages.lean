/-
The stages of a call and the batches they commit.

* `GuardedWrite`, `Stage.write?`: the guarded batch that a stage is about to commit, as a transition
  of the task it has read;
* `Stage.Fits`: a stage belongs to a call and its tasks are as the call makes them;
* `Fits.start`, `Fits.resume`: the first stage of a call fits, and every answer keeps it so;
* `resumed`: only a stage that has read a task goes on to write it or to drop its id;
* `hash_batch`, `inProgress_batch`: what a guarded batch writes;
* `hash_answer_of_quiet`: no other request touches the hash of a task.
-/
import LeaseQueue.Proofs.Clients.Transition
import LeaseQueue.Proofs.Keyspace.Tasks
import LeaseQueue.Proofs.Ledger.Basic

namespace LeaseQueue

/-! ### Guarded writes -/

/-- A guarded batch as a transition of the task that was read. -/
structure GuardedWrite where
  transition : Transition
  read : Task
  written : Task
deriving DecidableEq, Repr

/-- The batch of a guarded write. -/
def GuardedWrite.batch (l : Layout) (w : GuardedWrite) : Batch :=
  match w.transition with
  | .touch _ => l.refresh w.read.id w.read w.written
  | _ => l.transition w.read w.written

namespace Stage

/-- The guarded write that a stage is about to commit. -/
def write? : Stage → Option GuardedWrite
  | leasing worker _ _ _ read claimed => some ⟨.claim worker claimed.updatedAt, read, claimed⟩
  | finishing _ success result _ read done =>
    some ⟨.finish success result done.updatedAt, read, done⟩
  | refreshing _ _ read touched => some ⟨.touch touched.updatedAt, read, touched⟩
  | expiring sweep _ _ read expired =>
    some ⟨if read.attemptsExhausted sweep.maxAttempts then .exhaust sweep.now
      else .requeue sweep.now, read, expired⟩
  | _ => none

/-- The new task that a stage is about to store. -/
def insert? : Stage → Option Task
  | storing t => some t
  | _ => none

/-- The id that a stage is about to drop from the leases. -/
def forget? : Stage → Option String
  | forgetting _ id _ _ => some id
  | _ => none

/-- The id whose task a stage is about to read. -/
def reading? : Stage → Option String
  | claiming _ id _ _ => some id
  | acking id _ _ _ => some id
  | beating id _ => some id
  | inspecting _ id _ _ => some id
  | fetching id => some id
  | collecting _ id _ _ => some id
  | _ => none

/-- A stage belongs to a call, and its tasks are as the call makes them. -/
def Fits (call : Call) : Stage → Prop
  | storing t => call.isEnqueue = true ∧ t.status = .pending ∧ t.Clean
  | popping worker => call = .dequeue worker
  | claiming worker _ _ _ => call = .dequeue worker
  | leasing worker id _ _ read claimed =>
    call = .dequeue worker ∧ read.id = id ∧ read.status = .pending ∧
      claimed = read.claim worker claimed.updatedAt
  | restoring _ _ _ => ∃ worker, call = .dequeue worker
  | acking id success result _ => call = .ack id success result
  | finishing id success result _ read done =>
    call = .ack id success result ∧ read.id = id ∧
      read.finish success result done.updatedAt = .ok done
  | beating id _ => call = .heartbeat id
  | refreshing id _ read touched =>
    call = .heartbeat id ∧ read.id = id ∧ touched = read.touch touched.updatedAt
  | scanning sweep => ∃ maxAge, call = .recover maxAge sweep.maxAttempts
  | inspecting sweep _ _ _ => ∃ maxAge, call = .recover maxAge sweep.maxAttempts
  | forgetting sweep _ _ _ => ∃ maxAge, call = .recover maxAge sweep.maxAttempts
  | expiring sweep _ _ read expired =>
    (∃ maxAge, call = .recover maxAge sweep.maxAttempts) ∧
      read.isOverdue sweep.threshold = true ∧
      expired = read.expire sweep.maxAttempts sweep.now
  | fetching id => call = .get id
  | indexing status => call = .list status
  | collecting status _ _ _ => call = .list status
  | finished _ => True

/-! ### A stage and its call -/

section Fits

variable {call : Call} {l : Layout} {now : Timestamp}

/-- The first stage of a call fits. -/
lemma Fits.start (id : String) (now : Timestamp) (call : Call) :
    (start id now call).Fits call := by
  cases call with
  | enqueue type payload metadata =>
      rw [Stage.start]
      cases ht : Task.new id now type payload metadata with
      | error e => trivial
      | ok t => exact ⟨rfl, (Task.of_new ht).2⟩
  | dequeue worker => rfl
  | ack id success result => rfl
  | list status => rfl
  | get id => rfl
  | heartbeat id => rfl
  | recover maxAge maxAttempts => exact ⟨maxAge, rfl⟩

lemma fits_nextOverdue {sweep : Sweep} (h : ∃ maxAge, call = .recover maxAge sweep.maxAttempts)
    (report : SweepReport) (ids : List String) : (nextOverdue sweep report ids).Fits call := by
  cases ids with
  | nil => trivial
  | cons id rest => exact h

lemma fits_nextListed {status : Option Status} (h : call = .list status) (found : List Task)
    (ids : List String) : (nextListed status found ids).Fits call := by
  cases ids with
  | nil => trivial
  | cons id rest => exact h

lemma fits_retryClaim {worker : String} (h : call = .dequeue worker) (id : String) (score : Int64)
    (tries : Nat) : (retryClaim worker id score tries).Fits call := by
  cases tries with
  | zero => exact ⟨worker, h⟩
  | succ tries => exact h

lemma fits_claimRead {worker id : String} (h : call = .dequeue worker) (score : Int64)
    (tries : Nat) {read : Except StoreError (Option Task)}
    (hread : ∀ t, read = .ok (some t) → t.id = id) :
    (claimRead now worker id score tries read).Fits call := by
  unfold claimRead
  split
  · rename_i t
    split_ifs with hs
    · exact ⟨h, hread t rfl, hs, rfl⟩
    · exact h
  · exact h
  · exact h
  · exact ⟨worker, h⟩

lemma fits_ackRead {id : String} {success : Bool} {result : Option String}
    (h : call = .ack id success result) (tries : Nat) {read : Except StoreError (Option Task)}
    (hread : ∀ t, read = .ok (some t) → t.id = id) :
    (ackRead now id success result tries read).Fits call := by
  unfold ackRead
  split
  · rename_i t
    cases hfinish : t.finish success result now with
    | error e => trivial
    | ok done =>
        have hnow : done.updatedAt = now := by
          unfold Task.finish at hfinish
          split at hfinish
          · simp at hfinish
          · exact Except.ok.inj hfinish ▸ rfl
        exact ⟨h, hread t rfl, by rw [hnow, hfinish]⟩
  · trivial
  · trivial

lemma fits_beatRead {id : String} (h : call = .heartbeat id) (tries : Nat)
    {read : Except StoreError (Option Task)} (hread : ∀ t, read = .ok (some t) → t.id = id) :
    (beatRead now id tries read).Fits call := by
  unfold beatRead
  split
  · rename_i t
    exact ⟨h, hread t rfl, rfl⟩
  · trivial
  · trivial

lemma fits_overdueRead {sweep : Sweep} (h : ∃ maxAge, call = .recover maxAge sweep.maxAttempts)
    (id : String) (rest : List String) (report : SweepReport)
    (read : Except StoreError (Option Task)) :
    (overdueRead sweep id rest report read).Fits call := by
  unfold overdueRead
  split
  · split_ifs with ho
    · exact ⟨h, ho, rfl⟩
    · exact fits_nextOverdue h report rest
    · exact h
  · exact h
  · exact fits_nextOverdue h report rest

lemma fits_listedRead {status : Option Status} (h : call = .list status) (rest : List String)
    (found : List Task) (read : Except StoreError (Option Task)) :
    (listedRead status rest found read).Fits call := by
  unfold listedRead
  split
  · split_ifs
    · exact fits_nextListed h _ rest
    · exact fits_nextListed h _ rest
  · exact fits_nextListed h _ rest
  · trivial

/-- Every answer keeps a stage fitting, if a task read under an id has that id. -/
lemma Fits.resume {stage : Stage} (h : stage.Fits call) {answer : Except StoreError Reply}
    (hread : ∀ id t, stage.reading? = some id →
      loaded (l.taskKey id) answer = .ok (some t) → t.id = id) :
    (stage.resume l now answer).Fits call := by
  cases stage with
  | storing t => cases answer <;> trivial
  | popping worker =>
      dsimp only [Stage.resume]
      split
      · exact h
      all_goals trivial
  | claiming worker id score tries =>
      exact fits_claimRead h score tries fun t ht => hread id t rfl ht
  | leasing worker id score tries read claimed =>
      dsimp only [Stage.resume]
      split
      · trivial
      · exact fits_retryClaim h.1 id score tries
      · exact ⟨worker, h.1⟩
      · exact ⟨worker, h.1⟩
  | restoring id score error => trivial
  | acking id success result tries =>
      exact fits_ackRead h tries fun t ht => hread id t rfl ht
  | finishing id success result tries read done =>
      dsimp only [Stage.resume]
      split
      · trivial
      · split_ifs
        · trivial
        · exact h.1
      all_goals trivial
  | beating id tries => exact fits_beatRead h tries fun t ht => hread id t rfl ht
  | refreshing id tries read touched =>
      dsimp only [Stage.resume]
      split
      · trivial
      · split_ifs
        · trivial
        · exact h.1
      all_goals trivial
  | scanning sweep =>
      dsimp only [Stage.resume]
      split
      · exact fits_nextOverdue h _ _
      all_goals trivial
  | inspecting sweep id rest report => exact fits_overdueRead h id rest report _
  | forgetting sweep id rest report => exact fits_nextOverdue h report rest
  | expiring sweep rest report read expired =>
      dsimp only [Stage.resume]
      split
      · exact fits_nextOverdue h.1 _ rest
      · exact fits_nextOverdue h.1 report rest
  | fetching id => trivial
  | indexing status =>
      dsimp only [Stage.resume]
      split
      · exact fits_nextListed h [] _
      all_goals trivial
  | collecting status id rest found => exact fits_listedRead h rest found _
  | finished r => trivial

end Fits

/-! ### Reads and writes -/

section Requests

variable {call : Call} {l : Layout} {now : Timestamp} {stage : Stage}
  {answer : Except StoreError Reply} {w : GuardedWrite}

/-- What a stage is about to do after an answer: nothing to tasks and leases, a guarded write of the
task that the answer gave, or dropping an id for which the answer gave no leased task. -/
inductive Resumed (l : Layout) (stage : Stage) (answer : Except StoreError Reply) :
    Stage → Prop where
  | idle {next : Stage} (hw : next.write? = none) (hi : next.insert? = none)
      (hf : next.forget? = none) : Resumed l stage answer next
  | writing {next : Stage} {id : String} {w : GuardedWrite} (hid : stage.reading? = some id)
      (hread : loaded (l.taskKey id) answer = .ok (some w.read)) (hw : next.write? = some w) :
      Resumed l stage answer next
  | forgetting {next : Stage} {id : String} (hid : stage.reading? = some id)
      (hread : loaded (l.taskKey id) answer = .ok none ∨
        ∃ t, loaded (l.taskKey id) answer = .ok (some t) ∧ t.status ≠ .inProgress)
      (hf : next.forget? = some id) : Resumed l stage answer next

lemma resumed_nextOverdue (sweep : Sweep) (report : SweepReport) (ids : List String) :
    Resumed l stage answer (nextOverdue sweep report ids) := by
  cases ids <;> exact .idle rfl rfl rfl

lemma resumed_nextListed (status : Option Status) (found : List Task) (ids : List String) :
    Resumed l stage answer (nextListed status found ids) := by
  cases ids <;> exact .idle rfl rfl rfl

lemma resumed_retryClaim (worker id : String) (score : Int64) (tries : Nat) :
    Resumed l stage answer (retryClaim worker id score tries) := by
  cases tries <;> exact .idle rfl rfl rfl

/-- Only a stage that has read a task goes on to write it or to drop its id. -/
lemma resumed (l : Layout) (now : Timestamp) (stage : Stage) (answer : Except StoreError Reply) :
    Resumed l stage answer (stage.resume l now answer) := by
  cases stage with
  | storing t => cases answer <;> exact .idle rfl rfl rfl
  | popping worker =>
      dsimp only [resume]
      split <;> exact .idle rfl rfl rfl
  | claiming worker id score tries =>
      dsimp only [resume]
      unfold claimRead
      split
      · rename_i t hread
        split_ifs
        · exact .writing rfl hread rfl
        · exact .idle rfl rfl rfl
      all_goals exact .idle rfl rfl rfl
  | leasing worker id score tries read claimed =>
      dsimp only [resume]
      split
      · exact .idle rfl rfl rfl
      · exact resumed_retryClaim worker id score tries
      all_goals exact .idle rfl rfl rfl
  | restoring id score error => exact .idle rfl rfl rfl
  | acking id success result tries =>
      dsimp only [resume]
      unfold ackRead
      split
      · rename_i t hread
        split
        · exact .writing rfl hread rfl
        · exact .idle rfl rfl rfl
      all_goals exact .idle rfl rfl rfl
  | finishing id success result tries read done =>
      dsimp only [resume]
      split
      · exact .idle rfl rfl rfl
      · split_ifs <;> exact .idle rfl rfl rfl
      all_goals exact .idle rfl rfl rfl
  | beating id tries =>
      dsimp only [resume]
      unfold beatRead
      split
      · rename_i t hread
        exact .writing rfl hread rfl
      all_goals exact .idle rfl rfl rfl
  | refreshing id tries read touched =>
      dsimp only [resume]
      split
      · exact .idle rfl rfl rfl
      · split_ifs <;> exact .idle rfl rfl rfl
      all_goals exact .idle rfl rfl rfl
  | scanning sweep =>
      dsimp only [resume]
      split
      · exact resumed_nextOverdue _ _ _
      all_goals exact .idle rfl rfl rfl
  | inspecting sweep id rest report =>
      dsimp only [resume]
      unfold overdueRead
      split
      · rename_i t hread
        split_ifs with ho hs
        · exact .writing rfl hread rfl
        · exact resumed_nextOverdue sweep report rest
        · exact .forgetting rfl (Or.inr ⟨t, hread, hs⟩) rfl
      · rename_i hread
        exact .forgetting rfl (Or.inl hread) rfl
      · exact resumed_nextOverdue sweep report rest
  | forgetting sweep id rest report => exact resumed_nextOverdue sweep report rest
  | expiring sweep rest report read expired =>
      dsimp only [resume]
      split <;> exact resumed_nextOverdue sweep _ rest
  | fetching id => exact .idle rfl rfl rfl
  | indexing status =>
      dsimp only [resume]
      split
      · exact resumed_nextListed status [] _
      all_goals exact .idle rfl rfl rfl
  | collecting status id rest found =>
      dsimp only [resume]
      unfold listedRead
      split
      · split_ifs <;> exact resumed_nextListed status _ rest
      · exact resumed_nextListed status found rest
      · exact .idle rfl rfl rfl
  | finished r => exact .idle rfl rfl rfl

/-- A stage that writes a task neither stores a new one nor drops an id. -/
lemma eq_none_of_write? (h : stage.write? = some w) :
    stage.insert? = none ∧ stage.forget? = none := by
  cases stage with
  | storing | forgetting => simp [write?] at h
  | _ => exact ⟨rfl, rfl⟩

/-- A stage that stores a new task writes no other. -/
lemma write?_of_insert? {t : Task} (h : stage.insert? = some t) : stage.write? = none := by
  cases stage with
  | storing => rfl
  | _ => simp [insert?] at h

/-- A stage that drops an id writes no task. -/
lemma eq_none_of_forget? {id : String} (h : stage.forget? = some id) :
    stage.write? = none ∧ stage.insert? = none := by
  cases stage with
  | forgetting => exact ⟨rfl, rfl⟩
  | _ => simp [forget?] at h

/-- A guarded write comes from a task that has just been read. -/
lemma reading?_of_write?_resume (h : (stage.resume l now answer).write? = some w) :
    ∃ id, stage.reading? = some id ∧
      loaded (l.taskKey id) answer = .ok (some w.read) := by
  cases resumed l now stage answer with
  | idle hw hi hf => simp [hw] at h
  | writing hid hread hw =>
      rw [h, Option.some_inj] at hw
      exact ⟨_, hid, hw ▸ hread⟩
  | forgetting hid hread hf => simp [(eq_none_of_forget? hf).1] at h

/-- An id is dropped that has just been read: it has no task, or one without a lease. -/
lemma reading?_of_forget?_resume {id : String}
    (h : (stage.resume l now answer).forget? = some id) :
    stage.reading? = some id ∧
      (loaded (l.taskKey id) answer = .ok none ∨
        ∃ t, loaded (l.taskKey id) answer = .ok (some t) ∧ t.status ≠ .inProgress) := by
  cases resumed l now stage answer with
  | idle hw hi hf => simp [hf] at h
  | writing hid hread hw => simp [(eq_none_of_write? hw).2] at h
  | forgetting hid hread hf =>
      rw [h, Option.some_inj] at hf
      subst hf
      exact ⟨hid, hread⟩

/-- A call stores its new task first or not at all. -/
lemma insert?_resume : (stage.resume l now answer).insert? = none := by
  cases resumed l now stage answer with
  | idle hw hi hf => exact hi
  | writing hid hread hw => exact (eq_none_of_write? hw).1
  | forgetting hid hread hf => exact (eq_none_of_forget? hf).2

/-- A guarded write is a transition of the task that was read. -/
lemma Fits.act?_of_write? (h : stage.Fits call) (hw : stage.write? = some w) :
    w.transition.act? w.read = some w.written := by
  cases stage with
  | leasing worker id score tries read claimed =>
      obtain rfl := Option.some.inj hw
      obtain ⟨-, -, hs, hclaimed⟩ := h
      rw [Transition.act?, if_pos hs, ← hclaimed]
  | finishing id success result tries read done =>
      obtain rfl := Option.some.inj hw
      obtain ⟨-, -, hfinish⟩ := h
      rw [Transition.act?, hfinish]
      rfl
  | refreshing id tries read touched =>
      obtain rfl := Option.some.inj hw
      obtain ⟨-, -, htouched⟩ := h
      rw [Transition.act?, ← htouched]
  | expiring sweep rest report read expired =>
      obtain rfl := Option.some.inj hw
      obtain ⟨-, ho, hexpired⟩ := h
      rw [Task.isOverdue, Bool.and_eq_true, decide_eq_true_eq] at ho
      rw [Task.expire] at hexpired
      dsimp only
      split_ifs at hexpired ⊢
      · rw [Transition.act?, if_pos ho.1, ← hexpired]
      · rw [Transition.act?, if_pos ho.1, ← hexpired]
  | _ => simp [write?] at hw

/-- A stage with a guarded write asks for its batch. -/
lemma Fits.request_of_write? (h : stage.Fits call) (hw : stage.write? = some w) :
    stage.request l = some (.commit (w.batch l)) := by
  cases stage with
  | leasing worker id score tries read claimed =>
      obtain rfl := Option.some.inj hw
      rfl
  | finishing id success result tries read done =>
      obtain rfl := Option.some.inj hw
      rfl
  | refreshing id tries read touched =>
      obtain rfl := Option.some.inj hw
      obtain ⟨-, hid, -⟩ := h
      rw [request, ← hid]
      rfl
  | expiring sweep rest report read expired =>
      obtain rfl := Option.some.inj hw
      rw [request, GuardedWrite.batch]
      dsimp only
      split_ifs <;> rfl
  | _ => simp [write?] at hw

/-- A stage that stores a new task asks for its insertion. -/
lemma request_of_insert? {t : Task} (h : stage.insert? = some t) :
    stage.request l = some (.commit (l.insertion t)) := by
  cases stage with
  | storing t' =>
      obtain rfl := Option.some.inj h
      rfl
  | _ => simp [insert?] at h

lemma Fits.of_insert? (h : stage.Fits call) {t : Task} (ht : stage.insert? = some t) :
    call.isEnqueue = true ∧ t.status = .pending ∧ t.Clean := by
  cases stage with
  | storing t' =>
      obtain rfl := Option.some.inj ht
      exact h
  | _ => simp [insert?] at ht

/-- A stage that reads a task asks for its hash and writes nothing. -/
lemma request_of_reading? {id : String} (h : stage.reading? = some id) :
    stage.request l = some (.readHash (l.taskKey id)) := by
  cases stage with
  | claiming | acking | beating | inspecting | fetching | collecting =>
      obtain rfl := Option.some.inj h
      rfl
  | _ => simp [reading?] at h

lemma eq_none_of_reading? {id : String} (h : stage.reading? = some id) :
    stage.write? = none ∧ stage.insert? = none ∧ stage.forget? = none := by
  cases stage with
  | claiming | acking | beating | inspecting | fetching | collecting => exact ⟨rfl, rfl, rfl⟩
  | _ => simp [reading?] at h

/-- A request that stores nothing leaves the hashes of all tasks alone. -/
lemma hash_answer_of_quiet {q : Request} (hq : stage.request l = some q)
    (hw : stage.write? = none) (hi : stage.insert? = none) (ks : Keyspace) (id : String) :
    (ks.answer q).2.hash (l.taskKey id) = ks.hash (l.taskKey id) := by
  cases stage with
  | storing t => simp [insert?] at hi
  | popping worker =>
      obtain rfl := Option.some.inj hq
      exact Keyspace.hash_popMin ks _ _
  | restoring id' score error =>
      obtain rfl := Option.some.inj hq
      refine Keyspace.hash_foldl ks fun op hop => ?_
      simp_all [Layout.restore, Batch.ofOps, WriteOp.hashKey?]
  | forgetting sweep id' rest report =>
      obtain rfl := Option.some.inj hq
      refine Keyspace.hash_foldl ks fun op hop => ?_
      simp_all [Layout.forget, Batch.ofOps, WriteOp.hashKey?]
  | leasing => simp [write?] at hw
  | finishing => simp [write?] at hw
  | refreshing => simp [write?] at hw
  | expiring => simp [write?] at hw
  | finished => simp [request] at hq
  | _ =>
      obtain rfl := Option.some.inj hq
      rfl

end Requests

end Stage

/-! ### What a guarded batch writes -/

namespace GuardedWrite

variable {w : GuardedWrite} (l : Layout) (ks : Keyspace)

lemma guards_batch (w : GuardedWrite) : (w.batch l).guards = (l.guarded w.read).guards := by
  rw [batch]
  split <;> rfl

/-- The writes of a transition, without the guards. -/
lemma transition_ops (read t : Task) :
    (l.transition read t).ops = l.transitionOps read.status t := rfl

/-- A guarded batch writes the hash of its task. -/
lemma hash_batch (h : w.transition.act? w.read = some w.written) (id : String) :
    ((w.batch l).ops.foldl Keyspace.apply ks).hash (l.taskKey id)
      = if id = w.written.id then
          (ks.hash (l.taskKey id)).insertAll (Layout.mutableFields w.written)
        else ks.hash (l.taskKey id) := by
  rw [batch]
  split
  · rw [Keyspace.hash_refresh, (Transition.sameIdentity_act? h).1]
  · exact Keyspace.hash_transitionOps l ks w.read.status w.written id

/-- A guarded batch indexes a leased task by its update time and takes any other out of the leases,
if no task without a lease is among them. -/
lemma inProgress_batch (h : w.transition.act? w.read = some w.written)
    (hnone : w.read.status ≠ .inProgress →
      (ks.scoredSet l.inProgressKey).score? w.read.id = none) (m : String) :
    (((w.batch l).ops.foldl Keyspace.apply ks).scoredSet l.inProgressKey).score? m
      = if m = w.written.id then w.written.leaseScore?
        else (ks.scoredSet l.inProgressKey).score? m := by
  have hid : w.read.id = w.written.id := (Transition.sameIdentity_act? h).1.symm
  rw [hid] at hnone
  rw [batch, Task.leaseScore?]
  split
  · rename_i now htouch
    rw [htouch, Transition.act?, Option.some_inj] at h
    have hstatus : w.written.status = w.read.status := h ▸ rfl
    rw [Keyspace.inProgress_refresh, hid]
    split_ifs with hs hm hm
    · rw [ScoredSet.score?_add, if_pos hm]
    · rw [ScoredSet.score?_add, if_neg hm]
    · rw [hm]
      exact hnone (hstatus ▸ hs)
    · rfl
  · rw [transition_ops, Keyspace.inProgress_transitionOps]
    split_ifs with hs hm hm
    · rw [ScoredSet.score?_add, if_pos hm]
    · rw [ScoredSet.score?_add, if_neg hm]
    · rw [ScoredSet.score?_remove, if_pos hm]
    · rw [ScoredSet.score?_remove, if_neg hm]

end GuardedWrite

end LeaseQueue
