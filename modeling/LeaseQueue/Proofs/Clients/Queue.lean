/-
Where the waiting tasks are.

* `Stage.held?`, `Stage.tolerates`: the entry that a dequeue has popped, and the failures of its
  requests that do not lose it;
* `System.queued?`, `System.held?`, `System.At`: an entry of the queue, or held by a client;
* `System.standing?`: what the queue says of a task, as the task is stored;
* `System.Tracked`: entries are those of tasks without a lease, no two places have entries of one
  task, and every waiting task has one;
* `Tracked.of_still`, `Tracked.of_placed`, `Tracked.of_shed`: an action that moves no entry, brings
  the only entry of a task to one place, or takes entries of a task that does not wait away.
-/
import LeaseQueue.Proofs.Clients.History

namespace LeaseQueue

/-! ### Entries held by a call -/

namespace Stage

/-- The entry that a dequeue has popped and has neither leased, passed over nor put back yet. -/
def held? : Stage → Option (String × Int64)
  | claiming _ id score _ => some (id, score)
  | leasing _ id score _ _ _ => some (id, score)
  | restoring id score _ => some (id, score)
  | _ => none

/-- Whether a failing request leaves a popped entry with its dequeue: the commit that puts it back
must not fail, and no failure to read a task may look like one that cannot be decoded. -/
def tolerates : Stage → Fault → Bool
  | restoring _ _ _, _ => false
  | claiming _ _ _ _, .broken (.corrupted _ _) => false
  | _, _ => true

variable {l : Layout} {now : Timestamp} {stage : Stage} {call : Call} {w : GuardedWrite}
  {id : String} {x : Int64}

lemma held?_start (id : String) (now : Timestamp) (call : Call) :
    (start id now call).held? = none := by
  cases call with
  | enqueue type payload metadata =>
      rw [start]
      cases Task.new id now type payload metadata <;> rfl
  | _ => rfl

lemma held?_nextOverdue (sweep : Sweep) (report : SweepReport) (ids : List String) :
    (nextOverdue sweep report ids).held? = none := by
  cases ids <;> rfl

lemma held?_nextListed (status : Option Status) (found : List Task) (ids : List String) :
    (nextListed status found ids).held? = none := by
  cases ids <;> rfl

lemma held?_retryClaim (worker id : String) (score : Int64) (tries : Nat) :
    (retryClaim worker id score tries).held? = some (id, score) := by
  cases tries <;> rfl

/-- A call that holds no entry gets one by popping it only. -/
lemma held?_resume_of_none (h : stage.held? = none) (hpop : ∀ worker, stage ≠ popping worker)
    (answer : Except StoreError Reply) : (stage.resume l now answer).held? = none := by
  cases stage with
  | popping worker => exact absurd rfl (hpop worker)
  | claiming | leasing | restoring => simp [held?] at h
  | storing t => cases answer <;> rfl
  | acking id success result tries =>
      dsimp only [resume]
      unfold ackRead
      split
      · split <;> rfl
      all_goals rfl
  | finishing id success result tries read done =>
      dsimp only [resume]
      split
      · rfl
      · split_ifs <;> rfl
      all_goals rfl
  | beating id tries =>
      dsimp only [resume]
      unfold beatRead
      split <;> rfl
  | refreshing id tries read touched =>
      dsimp only [resume]
      split
      · rfl
      · split_ifs <;> rfl
      all_goals rfl
  | scanning sweep =>
      dsimp only [resume]
      split
      · exact held?_nextOverdue _ _ _
      all_goals rfl
  | inspecting sweep id rest report =>
      dsimp only [resume]
      unfold overdueRead
      split
      · split_ifs
        · rfl
        · exact held?_nextOverdue _ _ _
        · rfl
      · rfl
      · exact held?_nextOverdue _ _ _
  | forgetting sweep id rest report => exact held?_nextOverdue _ _ _
  | expiring sweep rest report read expired =>
      dsimp only [resume]
      split <;> exact held?_nextOverdue _ _ _
  | fetching id => rfl
  | indexing status =>
      dsimp only [resume]
      split
      · exact held?_nextListed _ _ _
      all_goals rfl
  | collecting status id rest found =>
      dsimp only [resume]
      unfold listedRead
      split
      · split_ifs <;> exact held?_nextListed _ _ _
      · exact held?_nextListed _ _ _
      · rfl
  | finished r => rfl

/-- A failure that is tolerated leaves the entry where it is. -/
lemma held?_resume_fault {fault : Fault} (h : stage.tolerates fault = true) :
    (stage.resume l now fault.answer).held? = stage.held? := by
  cases stage with
  | popping worker => cases fault <;> rfl
  | claiming worker id score tries =>
      cases fault with
      | refused => rfl
      | broken e => cases e <;> first | rfl | simp [tolerates] at h
  | leasing worker id score tries read claimed =>
      cases fault with
      | refused => exact held?_retryClaim _ _ _ _
      | broken e => rfl
  | restoring => simp [tolerates] at h
  | _ => exact held?_resume_of_none rfl (fun _ => Stage.noConfusion) _

/-- A dequeue that is about to write a lease holds the entry of the task. -/
lemma Fits.held?_of_write? (h : stage.Fits call) (hw : stage.write? = some w) :
    (stage.held? = none ∧ w.transition.isClaim = false) ∨
      ∃ x, stage.held? = some (w.read.id, x) ∧ w.transition.isClaim = true := by
  cases stage with
  | leasing worker id score tries read claimed =>
      obtain rfl := Option.some.inj hw
      obtain ⟨-, rfl, -⟩ := h
      exact Or.inr ⟨score, rfl, rfl⟩
  | finishing | refreshing =>
      obtain rfl := Option.some.inj hw
      exact Or.inl ⟨rfl, rfl⟩
  | expiring sweep rest report read expired =>
      obtain rfl := Option.some.inj hw
      refine Or.inl ⟨rfl, ?_⟩
      dsimp only
      split_ifs <;> rfl
  | _ => simp [write?] at hw

/-- An entry is gone once the batch of its call is applied. -/
lemma held?_resume_of_write? (hw : stage.write? = some w) :
    (stage.resume l now (.ok (.committed true))).held? = none := by
  cases stage with
  | leasing | finishing | refreshing => rfl
  | expiring sweep rest report read expired => exact held?_nextOverdue _ _ _
  | _ => simp [write?] at hw

/-- A batch that is refused leaves the entry where it is. -/
lemma held?_resume_of_refused (hw : stage.write? = some w) :
    (stage.resume l now (.ok (.committed false))).held? = stage.held? := by
  cases stage with
  | leasing => exact held?_retryClaim _ _ _ _
  | finishing | refreshing | expiring =>
      exact held?_resume_of_none rfl (fun _ => Stage.noConfusion) _
  | _ => simp [write?] at hw

end Stage

/-! ### What a guarded batch does to the queue -/

/-- A guarded batch that changes the status of its task queues it exactly if it waits then. -/
lemma GuardedWrite.pending_batch {w : GuardedWrite} (l : Layout) (ks : Keyspace)
    (h : w.transition.act? w.read = some w.written) (m : String) :
    (((w.batch l).ops.foldl Keyspace.apply ks).scoredSet l.pendingKey).score? m
      = if m = w.read.id ∧ w.written.status ≠ w.read.status then
          if w.written.status = .pending then some w.written.createdAt else none
        else (ks.scoredSet l.pendingKey).score? m := by
  have hid : w.written.id = w.read.id := (Transition.sameIdentity_act? h).1
  rw [batch]
  split
  · rename_i now htouch
    rw [htouch, Transition.act?, Option.some_inj] at h
    have hstatus : w.written.status = w.read.status := h ▸ rfl
    rw [Keyspace.pending_refresh, if_neg fun hne => hne.2 hstatus]
  · rename_i hnot
    have hne : w.written.status ≠ w.read.status := by
      intro heq
      cases htr : w.transition with
      | touch now => exact hnot now htr
      | claim worker now =>
          rw [htr] at h
          obtain ⟨hread, hwritten⟩ := (Transition.isClaim_iff h).mp rfl
          rw [heq, hread] at hwritten
          simp at hwritten
      | finish success result now =>
          rw [htr] at h
          obtain ⟨-, hopen, hterminal⟩ := Transition.of_finish h
          rw [heq, hopen] at hterminal
          simp at hterminal
      | requeue now =>
          rw [htr, Transition.act?, Option.ite_none_right_eq_some, Option.some_inj] at h
          rw [← h.2, h.1] at heq
          simp [Task.requeue] at heq
      | exhaust now =>
          rw [htr, Transition.act?, Option.ite_none_right_eq_some, Option.some_inj] at h
          rw [← h.2, h.1] at heq
          simp [Task.exhaust] at heq
    rw [transition_ops, Keyspace.pending_transitionOps, hid]
    split_ifs with hs hm hm
    · rw [ScoredSet.score?_add, if_pos hm.1]
    · rw [ScoredSet.score?_add, if_neg fun heq => hm ⟨heq, hne⟩]
    · rw [ScoredSet.score?_remove, if_pos hm.1]
    · rw [ScoredSet.score?_remove, if_neg fun heq => hm ⟨heq, hne⟩]

namespace System

variable {l : Layout} {used : List String} {s s' : System} {a : Action} {id k : String}
  {x y : Int64} {p q : Option Nat}

/-! ### Places -/

/-- The score of an id in the queue. -/
def queued? (l : Layout) (s : System) (id : String) : Option Int64 :=
  (s.keyspace.scoredSet l.pendingKey).score? id

/-- The entry that a client holds. -/
def held? (s : System) (i : Nat) : Option (String × Int64) :=
  (s.clients i).bind fun c => c.stage.held?

/-- An entry of an id is in the queue, or held by a client. -/
def At (l : Layout) (s : System) : Option Nat → String → Int64 → Prop
  | none, id, x => s.queued? l id = some x
  | some i, id, x => s.held? i = some (id, x)

/-- Status and creation time of the task stored under an id. -/
def standing? (l : Layout) (s : System) (id : String) : Option (Status × Timestamp) :=
  (s.keyspace.task? l id).map fun t => (t.status, t.createdAt)

/-- Every entry is that of a task without a lease and has its creation time, a task has entries in
one place at most, and a waiting task has one. -/
structure Tracked (l : Layout) (s : System) : Prop where
  entry : ∀ {p id x}, s.At l p id x → ∃ st, s.standing? l id = some (st, x) ∧ st ≠ .inProgress
  unique : ∀ {p q id x y}, s.At l p id x → s.At l q id y → p = q
  waiting : ∀ {id x}, s.standing? l id = some (.pending, x) → ∃ p, s.At l p id x

lemma tracked_empty (l : Layout) : Tracked l empty := by
  have hnone : ∀ p id x, ¬ At l empty p id x := by
    intro p id x h
    cases p <;> simp [At, queued?, held?, empty, Keyspace.scoredSet_empty] at h
  refine ⟨fun h => absurd h (hnone _ _ _), fun h => absurd h (hnone _ _ _), fun h => ?_⟩
  simp [standing?, empty, Keyspace.task?_empty] at h

/-- Two systems agree about all ids but one. -/
structure Elsewhere (l : Layout) (s s' : System) (k : String) : Prop where
  place : ∀ {p id x}, id ≠ k → (s'.At l p id x ↔ s.At l p id x)
  standing : ∀ {id}, id ≠ k → s'.standing? l id = s.standing? l id

namespace Tracked

/-- Nothing moves. -/
lemma of_still (h : Tracked l s) (hplace : ∀ p id x, s'.At l p id x ↔ s.At l p id x)
    (hstanding : ∀ id, s'.standing? l id = s.standing? l id) : Tracked l s' where
  entry hat := by
    rw [hstanding]
    exact h.entry ((hplace _ _ _).mp hat)
  unique hp hq := h.unique ((hplace _ _ _).mp hp) ((hplace _ _ _).mp hq)
  waiting hs := by
    rw [hstanding] at hs
    obtain ⟨p, hp⟩ := h.waiting hs
    exact ⟨p, (hplace _ _ _).mpr hp⟩

/-- What holds of one id and of all others holds of all. -/
lemma of_elsewhere (h : Tracked l s) (he : Elsewhere l s s' k)
    (hentry : ∀ p x, s'.At l p k x → ∃ st, s'.standing? l k = some (st, x) ∧ st ≠ .inProgress)
    (hunique : ∀ p q x y, s'.At l p k x → s'.At l q k y → p = q)
    (hwaiting : ∀ x, s'.standing? l k = some (.pending, x) → ∃ p, s'.At l p k x) :
    Tracked l s' where
  entry {p id x} hat := by
    by_cases hid : id = k
    · subst hid
      exact hentry p x hat
    · rw [he.standing hid]
      exact h.entry ((he.place hid).mp hat)
  unique {p q id x y} hp hq := by
    by_cases hid : id = k
    · subst hid
      exact hunique p q x y hp hq
    · exact h.unique ((he.place hid).mp hp) ((he.place hid).mp hq)
  waiting {id x} hs := by
    by_cases hid : id = k
    · subst hid
      exact hwaiting x hs
    · rw [he.standing hid] at hs
      obtain ⟨p, hp⟩ := h.waiting hs
      exact ⟨p, (he.place hid).mpr hp⟩

/-- The only entry of a task without a lease is in one place now. -/
lemma of_placed (h : Tracked l s) (he : Elsewhere l s s' k) (p₀ : Option Nat) {st : Status}
    (hplace : ∀ p y, s'.At l p k y ↔ p = p₀ ∧ y = x) (hst : s'.standing? l k = some (st, x))
    (hfree : st ≠ .inProgress) : Tracked l s' := by
  refine h.of_elsewhere he (fun p y hp => ?_) (fun p q y z hp hq => ?_) fun y hy => ?_
  · exact ⟨st, ((hplace p y).mp hp).2 ▸ hst, hfree⟩
  · rw [((hplace p y).mp hp).1, ((hplace q z).mp hq).1]
  · rw [hst, Option.some_inj, Prod.mk.injEq] at hy
    exact ⟨p₀, (hplace p₀ y).mpr ⟨rfl, hy.2.symm⟩⟩

/-- Entries of a task that does not wait are gone; if it is leased now, all of them. -/
lemma of_shed (h : Tracked l s) (he : Elsewhere l s s' k) {before st : Status}
    (hsub : ∀ p y, s'.At l p k y → s.At l p k y) (hbefore : s.standing? l k = some (before, x))
    (hst : s'.standing? l k = some (st, x)) (hne : st ≠ .pending)
    (hleased : st = .inProgress → ∀ p y, ¬ s'.At l p k y) : Tracked l s' := by
  refine h.of_elsewhere he (fun p y hp => ?_)
    (fun p q y z hp hq => h.unique (hsub p y hp) (hsub q z hq)) fun y hy => ?_
  · obtain ⟨st', hst', -⟩ := h.entry (hsub p y hp)
    rw [hbefore, Option.some_inj, Prod.mk.injEq] at hst'
    exact ⟨st, hst'.2 ▸ hst, fun hleased' => hleased hleased' p y hp⟩
  · rw [hst, Option.some_inj, Prod.mk.injEq] at hy
    exact absurd hy.1 hne

end Tracked

end System

end LeaseQueue
