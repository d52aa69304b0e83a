/-
No waiting task is lost between pop and lease.

* `Tracked.step_popping`, `step_claiming`, `step_restoring`, `step_storing`: the requests that move
  an entry keep track of it;
* `System.Applied`, `Tracked.step_of_commit?`: so does a guarded batch, whatever it does to its
  task;
* `System.Permits`, `System.Orderly`: clients begin a call when their last one is over, and no
  failure loses a popped entry;
* `Tracked.step`, `tracked_run`: every permitted action keeps track of the waiting tasks, so every
  orderly run does.
-/
import LeaseQueue.Proofs.Clients.Queue

namespace LeaseQueue

namespace Stage

/-- Whether a call is over. -/
def isFinished : Stage → Bool
  | finished _ => true
  | _ => false

variable {l : Layout} {stage : Stage}

lemma held?_of_isFinished (h : stage.isFinished = true) : stage.held? = none := by
  cases stage with
  | finished r => rfl
  | _ => simp [isFinished] at h

/-- A request that neither stores a task, pops an entry nor puts one back leaves the queue alone. -/
lemma pending_answer_of_quiet {q : Request} (hq : stage.request l = some q)
    (hw : stage.write? = none) (hi : stage.insert? = none) (hh : stage.held? = none)
    (hp : ∀ worker, stage ≠ popping worker) (ks : Keyspace) :
    (ks.answer q).2.scoredSet l.pendingKey = ks.scoredSet l.pendingKey := by
  cases stage with
  | popping worker => exact absurd rfl (hp worker)
  | storing => simp [insert?] at hi
  | forgetting sweep id rest report =>
      obtain rfl := Option.some.inj hq
      refine Keyspace.scoredSet_foldl ks fun op hop => ?_
      have hne := l.pendingKey_ne_inProgressKey.symm
      simp_all [Layout.forget, Batch.ofOps, WriteOp.scoredKey?]
  | claiming | leasing | restoring => simp [held?] at hh
  | finishing | refreshing | expiring => simp [write?] at hw
  | finished => simp [request] at hq
  | _ =>
      obtain rfl := Option.some.inj hq
      rfl

end Stage

namespace System

variable {l : Layout} {used : List String} {s : System} {a : Action} {i : Nat} {now : Timestamp}
  {c : Client}

/-! ### What a step moves -/

lemma held?_step_of_ne (a : Action) (h : i ≠ a.client) : (s.step l a).held? i = s.held? i := by
  rw [held?, clients_step_of_ne a h, held?]

lemma held?_of_clients (hc : s.clients i = some c) : s.held? i = c.stage.held? := by
  rw [held?, hc, Option.bind_some]

/-- After a step the acting client holds what it holds then, and the others what they held. -/
lemma at_step_some_iff {j : Nat} {id : String} {x : Int64} :
    (s.step l a).At l (some j) id x
      ↔ if j = a.client then (s.step l a).held? a.client = some (id, x)
        else s.At l (some j) id x := by
  split_ifs with hj
  · rw [At, hj]
  · rw [At, At, held?_step_of_ne a hj]

/-- A step that agrees about the queue, the acting client and the tasks moves nothing. -/
lemma Tracked.step_of_still (h : Tracked l s)
    (hqueue : ∀ id, (s.step l a).queued? l id = s.queued? l id)
    (hheld : (s.step l a).held? a.client = s.held? a.client)
    (hstanding : ∀ id, (s.step l a).standing? l id = s.standing? l id) :
    Tracked l (s.step l a) := by
  refine h.of_still (fun p id x => ?_) hstanding
  cases p with
  | none => rw [At, At, hqueue]
  | some j =>
      rw [at_step_some_iff]
      split_ifs with hj
      · rw [At, hj, hheld]
      · rfl

/-- A step whose client holds entries of one id at most, before and after, moves no other. -/
lemma elsewhere_step {k : String}
    (hqueue : ∀ id, id ≠ k → (s.step l a).queued? l id = s.queued? l id)
    (hbefore : ∀ e ∈ s.held? a.client, e.1 = k)
    (hafter : ∀ e ∈ (s.step l a).held? a.client, e.1 = k)
    (hstanding : ∀ id, id ≠ k → (s.step l a).standing? l id = s.standing? l id) :
    Elsewhere l s (s.step l a) k where
  place {p id x} hid := by
    cases p with
    | none => rw [At, At, hqueue id hid]
    | some j =>
        rw [at_step_some_iff]
        split_ifs with hj
        · rw [At, hj]
          exact ⟨fun hheld => absurd (hafter _ hheld) hid,
            fun hheld => absurd (hbefore _ hheld) hid⟩
        · rfl
  standing {id} hid := hstanding id hid

/-- The answer that an advancing client gets. -/
lemma step_advance (now : Timestamp) (hc : s.clients i = some c) {q : Request} {answer : Reply}
    {ks : Keyspace} (hq : c.stage.request l = some q) (ha : s.keyspace.answer q = (answer, ks)) :
    (s.step l (.advance i now)).keyspace = ks ∧
      (s.step l (.advance i now)).clients i
        = some ⟨c.call, c.stage.resume l now (.ok answer)⟩ := by
  rw [step, hc]
  dsimp only
  rw [Stage.advance_of_request hq, ha]
  exact ⟨rfl, Function.update_self _ _ _⟩

/-- Without a batch and a new task the stored tasks stay. -/
lemma Inv.standing?_step_of_quiet (hinv : Inv l used s) (hw : s.commit? l a = none)
    (hi : s.insert? a = none) (id : String) :
    (s.step l a).standing? l id = s.standing? l id := by
  rw [standing?, (hinv.task?_step a).2, hw, hi, standing?]

/-- A client that advances without a write changes no stored task. -/
lemma Inv.standing?_advance (hinv : Inv l used s) (now : Timestamp) (hc : s.clients i = some c)
    (hw : c.stage.write? = none) (hi : c.stage.insert? = none) (id : String) :
    (s.step l (.advance i now)).standing? l id = s.standing? l id := by
  have hstage : s.requesting (.advance i now) = some c.stage := by rw [requesting, hc]; rfl
  refine hinv.standing?_step_of_quiet (commit?_of_write?_eq_none hstage hw) ?_ id
  rw [insert?, hstage, Option.bind_some, hi]

/-- A guarded batch that changes the status of its task queues it exactly if it waits then. -/
lemma Inv.queued?_step_of_commit? (hinv : Inv l used s) {w : GuardedWrite}
    (hw : s.commit? l a = some w) (id : String) :
    (s.step l a).queued? l id
      = if id = w.read.id ∧ w.written.status ≠ w.read.status then
          if w.written.status = .pending then some w.written.createdAt else none
        else s.queued? l id := by
  obtain ⟨stored, hst⟩ := hinv.committing hw
  rw [queued?, hinv.keyspace_step_of_commit? hw, GuardedWrite.pending_batch l s.keyspace hst.act,
    queued?]

/-! ### The requests of a dequeue -/

/-- A popped entry is with its dequeue. -/
lemma Tracked.step_popping (hinv : Inv l used s) (h : Tracked l s) (now : Timestamp) {call : Call}
    {worker : String} (hc : s.clients i = some ⟨call, .popping worker⟩) :
    Tracked l (s.step l (.advance i now)) := by
  have hstanding := hinv.standing?_advance now hc rfl rfl
  have hnone : s.held? i = none := held?_of_clients hc
  rcases s.keyspace.popMin_cases l.pendingKey with
    ⟨-, heq⟩ | ⟨⟨id, x⟩, rest, hpop, hentry, hrest⟩
  · obtain ⟨hks, hclient⟩ := step_advance now hc rfl
      (show s.keyspace.answer (.popMin l.pendingKey) = (.popped none, s.keyspace) by
        rw [Keyspace.answer, heq])
    refine h.step_of_still (fun id => ?_) ((held?_of_clients hclient).trans hnone.symm) hstanding
    rw [queued?, hks, queued?]
  · obtain ⟨hks, hclient⟩ := step_advance now hc rfl
      (show s.keyspace.answer (.popMin l.pendingKey)
        = (.popped (some (id, x)), (s.keyspace.popMin l.pendingKey).2) by
        rw [Keyspace.answer, ← hentry])
    have hheld : (s.step l (.advance i now)).held? i = some (id, x) := held?_of_clients hclient
    have hqueue : ∀ id', (s.step l (.advance i now)).queued? l id'
        = if id' = id then none else s.queued? l id' := by
      intro id'
      rw [queued?, hks, hrest, ScoredSet.score?_popMin hpop, queued?]
    have hat : s.At l none id x := ((hinv.inStep l.pendingKey).popMin_least hpop).1
    obtain ⟨st, hst, hfree⟩ := h.entry hat
    refine h.of_placed (elsewhere_step (fun id' hid => ?_) (by simp [Action.client, hnone])
      (by simp [Action.client, hheld]) fun id' _ => hstanding id') (some i) (fun p y => ?_)
      ((hstanding id).trans hst) hfree
    · rw [hqueue, if_neg hid]
    · cases p with
      | none => simp [At, hqueue]
      | some j =>
          rw [at_step_some_iff]
          split_ifs with hj
          · simp [hj, Action.client, hheld, eq_comm]
          · refine ⟨fun hp => ?_, fun hp => absurd (Option.some.inj hp.1) hj⟩
            simpa using h.unique hat hp

/-- A popped entry stays with its dequeue if its task waits, and is passed over if it does not. -/
lemma Tracked.step_claiming (hinv : Inv l used s) (h : Tracked l s) (now : Timestamp) {call : Call}
    {worker id : String} {x : Int64} {tries : Nat}
    (hc : s.clients i = some ⟨call, .claiming worker id x tries⟩) :
    Tracked l (s.step l (.advance i now)) := by
  have hstanding := hinv.standing?_advance now hc rfl rfl
  have hbefore : s.held? i = some (id, x) := held?_of_clients hc
  obtain ⟨hks, hclient⟩ := step_advance now hc rfl (show s.keyspace.answer
    (.readHash (l.taskKey id)) = (.fields (s.keyspace.hash (l.taskKey id)), s.keyspace) from rfl)
  have hqueue : ∀ id', (s.step l (.advance i now)).queued? l id' = s.queued? l id' := by
    intro id'
    rw [queued?, hks, queued?]
  obtain ⟨st, hst, hfree⟩ := h.entry (show s.At l (some i) id x from hbefore)
  obtain ⟨t, ht, hstx⟩ := Option.map_eq_some_iff.mp hst
  rw [Stage.resume, hinv.sound.loaded_readHash, ht] at hclient
  dsimp only [Stage.claimRead] at hclient
  by_cases hs : t.status = .pending
  · rw [if_pos hs] at hclient
    exact h.step_of_still hqueue ((held?_of_clients hclient).trans hbefore.symm) hstanding
  · rw [if_neg hs] at hclient
    have hheld : (s.step l (.advance i now)).held? i = none := held?_of_clients hclient
    have hne : st ≠ .pending := fun heq => hs ((congrArg Prod.fst hstx).trans heq)
    refine h.of_shed (elsewhere_step (fun id' _ => hqueue id') (by simp [Action.client, hbefore])
      (by simp [Action.client, hheld]) fun id' _ => hstanding id') (fun p y hp => ?_) hst
      ((hstanding id).trans hst) hne fun heq => absurd heq hfree
    cases p with
    | none => rwa [At, hqueue] at hp
    | some j =>
        rw [at_step_some_iff] at hp
        split_ifs at hp with hj
        · simp [Action.client, hheld] at hp
        · exact hp

/-- An entry that is put back is in the queue. -/
lemma Tracked.step_restoring (hinv : Inv l used s) (h : Tracked l s) (now : Timestamp) {call : Call}
    {id : String} {x : Int64} {e : StoreError}
    (hc : s.clients i = some ⟨call, .restoring id x e⟩) :
    Tracked l (s.step l (.advance i now)) := by
  have hstanding := hinv.standing?_advance now hc rfl rfl
  have hbefore : s.held? i = some (id, x) := held?_of_clients hc
  obtain ⟨hks, hclient⟩ := step_advance now hc rfl (show s.keyspace.answer
    (.commit (l.restore id x)) = (.committed true, (l.restore id x).ops.foldl Keyspace.apply
      s.keyspace) from rfl)
  have hheld : (s.step l (.advance i now)).held? i = none := held?_of_clients hclient
  have hqueue : ∀ id', (s.step l (.advance i now)).queued? l id'
      = if id' = id then some x else s.queued? l id' := by
    intro id'
    rw [queued?, hks, Layout.restore, Batch.ofOps, List.foldl_cons, List.foldl_nil,
      Keyspace.scoredSet_apply]
    dsimp only
    rw [if_pos rfl, ScoredSet.score?_add, queued?]
  have hat : s.At l (some i) id x := hbefore
  obtain ⟨st, hst, hfree⟩ := h.entry hat
  refine h.of_placed (elsewhere_step (fun id' hid => ?_) (by simp [Action.client, hbefore])
    (by simp [Action.client, hheld]) fun id' _ => hstanding id') none (fun p y => ?_)
    ((hstanding id).trans hst) hfree
  · rw [hqueue, if_neg hid]
  · cases p with
    | none => simp [At, hqueue, eq_comm]
    | some j =>
        rw [at_step_some_iff]
        split_ifs with hj
        · simp [Action.client, hheld]
        · refine ⟨fun hp => ?_, fun hp => absurd hp.1 (by simp)⟩
          exact absurd (Option.some.inj (h.unique hat hp)).symm hj

/-! ### Writes -/

/-- A new task has its entry in the queue. -/
lemma Tracked.step_storing (hinv : Inv l used s) (h : Tracked l s) (now : Timestamp)
    (hc : s.clients i = some c) {t : Task} (hi : c.stage.insert? = some t) :
    Tracked l (s.step l (.advance i now)) := by
  have hstage : s.requesting (.advance i now) = some c.stage := by rw [requesting, hc]; rfl
  obtain ⟨-, hpending, -⟩ := (hinv.fits hc).of_insert? hi
  obtain ⟨-, hfresh⟩ := hinv.fresh hc hi
  have hw : c.stage.write? = none := Stage.write?_of_insert? hi
  have hcommit : s.commit? l (.advance i now) = none := commit?_of_write?_eq_none hstage hw
  have hinsert : s.insert? (.advance i now) = some t := by
    rw [insert?, hstage, Option.bind_some, hi]
  have hstanding : ∀ id, (s.step l (.advance i now)).standing? l id
      = if id = t.id then some (.pending, t.createdAt) else s.standing? l id := by
    intro id
    rw [standing?, (hinv.task?_step _).2, hcommit, hinsert, standing?]
    dsimp only
    split_ifs
    · rw [Option.map_some, hpending]
    · rfl
  obtain ⟨hks, hclient⟩ := step_advance now hc (Stage.request_of_insert? hi)
    (show s.keyspace.answer (.commit (l.insertion t)) = (.committed true,
      (l.insertion t).ops.foldl Keyspace.apply s.keyspace) from rfl)
  have hnone : c.stage.held? = none ∧ ∀ worker, c.stage ≠ .popping worker := by
    cases hstage : c.stage with
    | storing t' => exact ⟨rfl, fun worker => Stage.noConfusion⟩
    | _ => simp [hstage, Stage.insert?] at hi
  have hbefore : s.held? i = none := (held?_of_clients hc).trans hnone.1
  have hheld : (s.step l (.advance i now)).held? i = none :=
    (held?_of_clients hclient).trans
      (Stage.held?_resume_of_none hnone.1 hnone.2 (.ok (.committed true)))
  have hqueue : ∀ id, (s.step l (.advance i now)).queued? l id
      = if id = t.id then some t.createdAt else s.queued? l id := by
    intro id
    rw [queued?, hks, Keyspace.pending_insertion, ScoredSet.score?_add, queued?]
  have hnowhere : ∀ p x, ¬ s.At l p t.id x := by
    intro p x hp
    obtain ⟨st, hst, -⟩ := h.entry hp
    rw [standing?, hfresh] at hst
    simp at hst
  have hafter : (s.step l (.advance i now)).standing? l t.id = some (.pending, t.createdAt) := by
    rw [hstanding, if_pos rfl]
  refine h.of_placed (elsewhere_step (fun id hid => ?_) (by simp [Action.client, hbefore])
    (by simp [Action.client, hheld]) fun id hid => ?_) none (fun p y => ?_) hafter (by simp)
  · rw [hqueue, if_neg hid]
  · rw [hstanding, if_neg hid]
  · cases p with
    | none => simp [At, hqueue, eq_comm]
    | some j =>
        rw [at_step_some_iff]
        split_ifs with hj
        · simp [Action.client, hheld]
        · exact ⟨fun hp => absurd hp (hnowhere (some j) y), fun hp => absurd hp.1 (by simp)⟩

/-- What a guarded batch moves when it is applied. -/
structure Applied (l : Layout) (s : System) (a : Action) (w : GuardedWrite) : Prop where
  before : s.standing? l w.read.id = some (w.read.status, w.read.createdAt)
  standing : ∀ id, (s.step l a).standing? l id
    = if id = w.read.id then some (w.written.status, w.read.createdAt) else s.standing? l id
  queued : ∀ id, (s.step l a).queued? l id
    = if id = w.read.id ∧ w.written.status ≠ w.read.status then
        if w.written.status = .pending then some w.read.createdAt else none
      else s.queued? l id
  /-- A dequeue that leases a task has held its entry; the other calls hold none. -/
  held : s.held? a.client = none ∧ w.transition.isClaim = false ∨
    ∃ x, s.held? a.client = some (w.read.id, x) ∧ w.transition.isClaim = true
  released : (s.step l a).held? a.client = none

lemma Inv.applied (hinv : Inv l used s) {w : GuardedWrite} (hw : s.commit? l a = some w) :
    Applied l s a w := by
  obtain ⟨stored, hst⟩ := hinv.committing hw
  obtain ⟨now, c, hc, hwrite, hclient⟩ := client_step_of_commit? hinv.fits hw
  have hcreated : w.written.createdAt = w.read.createdAt :=
    (Transition.sameIdentity_act? hst.act).2.2.2.2
  refine ⟨?_, fun id => ?_, fun id => ?_, ?_, ?_⟩
  · have hstored : w.read.createdAt = stored.createdAt := hst.snapshot.identity.2.2.2.2
    rw [standing?, hst.task?, Option.map_some, hst.status, hstored]
  · rw [standing?, (hinv.task?_step a).2, hw, standing?]
    dsimp only
    split_ifs
    · rw [Option.map_some, Task.kept_status, Task.kept_createdAt, hcreated]
    · rfl
  · rw [hinv.queued?_step_of_commit? hw, hcreated]
  · rw [held?_of_clients hc]
    exact (hinv.fits hc).held?_of_write? hwrite
  · exact (held?_of_clients hclient).trans (Stage.held?_resume_of_write? hwrite)

namespace Applied

variable {w : GuardedWrite}

lemma after (h : Applied l s a w) :
    (s.step l a).standing? l w.read.id = some (w.written.status, w.read.createdAt) := by
  rw [h.standing, if_pos rfl]

lemma elsewhere (h : Applied l s a w) : Elsewhere l s (s.step l a) w.read.id := by
  refine elsewhere_step (fun id hid => ?_) ?_ (by simp [h.released]) fun id hid => ?_
  · rw [h.queued, if_neg fun heq => hid heq.1]
  · rcases h.held with ⟨hnone, -⟩ | ⟨x, hsome, -⟩
    · simp [hnone]
    · simp [hsome]
  · rw [h.standing, if_neg hid]

/-- The other clients hold what they held. -/
lemma others (h : Applied l s a w) {j : Nat} {x : Int64}
    (hat : (s.step l a).At l (some j) w.read.id x) :
    j ≠ a.client ∧ s.At l (some j) w.read.id x := by
  rw [at_step_some_iff] at hat
  split_ifs at hat with hj
  · simp [h.released] at hat
  · exact ⟨hj, hat⟩

/-- A refresh moves nothing. -/
lemma tracked_refresh (h : Applied l s a w) (ht : Tracked l s)
    (hnone : s.held? a.client = none) (heq : w.written.status = w.read.status) :
    Tracked l (s.step l a) := by
  refine ht.step_of_still (fun id => ?_) (h.released.trans hnone.symm) fun id => ?_
  · rw [h.queued, if_neg fun hne => hne.2 heq]
  · rw [h.standing]
    split_ifs with hid
    · rw [hid, h.before, heq]
    · rfl

/-- A lease takes the only entry of its task out of the hands of its dequeue. -/
lemma tracked_lease (h : Applied l s a w) (ht : Tracked l s) {x : Int64}
    (hsome : s.held? a.client = some (w.read.id, x)) (hread : w.read.status = .pending)
    (hwritten : w.written.status = .inProgress) : Tracked l (s.step l a) := by
  have hat : s.At l (some a.client) w.read.id x := hsome
  have hgone : ∀ p y, ¬ (s.step l a).At l p w.read.id y := by
    intro p y hp
    cases p with
    | none => simp [At, h.queued, hread, hwritten] at hp
    | some j =>
        obtain ⟨hj, hp⟩ := h.others hp
        exact hj (Option.some.inj (ht.unique hp hat))
  exact ht.of_shed h.elsewhere (fun p y hp => absurd hp (hgone p y)) h.before h.after
    (by simp [hwritten]) fun _ => hgone

/-- A requeued task, which had no entry, has one in the queue. -/
lemma tracked_requeue (h : Applied l s a w) (ht : Tracked l s)
    (hread : w.read.status = .inProgress) (hwritten : w.written.status = .pending) :
    Tracked l (s.step l a) := by
  have hnowhere : ∀ p y, ¬ s.At l p w.read.id y := by
    intro p y hp
    obtain ⟨st, hst, hfree⟩ := ht.entry hp
    rw [h.before, Option.some_inj, Prod.mk.injEq] at hst
    exact hfree (hst.1.symm.trans hread)
  refine ht.of_placed h.elsewhere none (fun p y => ?_) h.after (by simp [hwritten])
  cases p with
  | none => simp [At, h.queued, hread, hwritten, eq_comm]
  | some j => exact ⟨fun hp => absurd (h.others hp).2 (hnowhere _ _), fun hp => by simp at hp⟩

/-- A finished task is taken out of the queue; who holds its entry still does. -/
lemma tracked_finish (h : Applied l s a w) (ht : Tracked l s)
    (hopen : w.read.status.isTerminal = false) (hterminal : w.written.status.isTerminal = true) :
    Tracked l (s.step l a) := by
  have hne : w.written.status ≠ w.read.status := (Status.Next.finish hopen hterminal).ne.symm
  have hpending : w.written.status ≠ .pending := fun heq => by
    simp [heq, Status.isTerminal] at hterminal
  refine ht.of_shed h.elsewhere (fun p y hp => ?_) h.before h.after hpending fun heq => ?_
  · cases p with
    | none => simp [At, h.queued, hne, hpending] at hp
    | some j => exact (h.others hp).2
  · simp [heq, Status.isTerminal] at hterminal

end Applied

/-- A guarded batch that is applied keeps track of its task, whatever it does to it. -/
lemma Tracked.step_of_commit? (hinv : Inv l used s) (h : Tracked l s) {w : GuardedWrite}
    (hw : s.commit? l a = some w) : Tracked l (s.step l a) := by
  obtain ⟨stored, hst⟩ := hinv.committing hw
  have happlied := hinv.applied hw
  have hclaim := Transition.isClaim_iff hst.act
  have hnext := (Transition.follows_act? hst.act).status
  rcases happlied.held with ⟨hnone, hno⟩ | ⟨x, hsome, hyes⟩
  · rcases hnext with heq | hnext
    · exact happlied.tracked_refresh h hnone heq
    generalize hread : w.read.status = before at hnext
    generalize hwritten : w.written.status = after at hnext
    cases hnext with
    | lease => simp [hclaim.mpr ⟨hread, hwritten⟩] at hno
    | requeue => exact happlied.tracked_requeue h hread hwritten
    | finish hopen hterminal =>
        exact happlied.tracked_finish h (hread ▸ hopen) (hwritten ▸ hterminal)
  · obtain ⟨hread, hwritten⟩ := hclaim.mp hyes
    exact happlied.tracked_lease h hsome hread hwritten

/-- A guarded batch that is refused moves nothing. -/
lemma Tracked.step_refused (hinv : Inv l used s) (h : Tracked l s) (now : Timestamp)
    (hc : s.clients i = some c) {w : GuardedWrite} (hwrite : c.stage.write? = some w)
    (hw : s.commit? l (.advance i now) = none) : Tracked l (s.step l (.advance i now)) := by
  have hstage : s.requesting (.advance i now) = some c.stage := by rw [requesting, hc]; rfl
  have hguards : ¬ (l.guarded w.read).guards.all s.keyspace.holds = true := by
    intro hguards
    rw [commit?_of_write? hstage hwrite, if_pos hguards] at hw
    simp at hw
  have hanswer : s.keyspace.answer (.commit (w.batch l)) = (.committed false, s.keyspace) := by
    rw [Keyspace.answer, Keyspace.commit_eq, GuardedWrite.guards_batch, if_neg hguards]
  obtain ⟨hks, hclient⟩ := step_advance now hc ((hinv.fits hc).request_of_write? hwrite) hanswer
  have hinsert : s.insert? (.advance i now) = none := by
    rw [insert?, hstage, Option.bind_some, (Stage.eq_none_of_write? hwrite).1]
  refine h.step_of_still (fun id => ?_) ?_ (hinv.standing?_step_of_quiet hw hinsert)
  · rw [queued?, hks, queued?]
  · exact ((held?_of_clients hclient).trans (Stage.held?_resume_of_refused hwrite)).trans
      (held?_of_clients hc).symm

/-- A request that touches neither tasks nor queue moves nothing. -/
lemma Tracked.step_quiet (hinv : Inv l used s) (h : Tracked l s) (now : Timestamp)
    (hc : s.clients i = some c) (hw : c.stage.write? = none) (hi : c.stage.insert? = none)
    (hh : c.stage.held? = none) (hp : ∀ worker, c.stage ≠ .popping worker) :
    Tracked l (s.step l (.advance i now)) := by
  have hbefore : s.held? i = none := (held?_of_clients hc).trans hh
  refine h.step_of_still (fun id => ?_) ?_ (hinv.standing?_advance now hc hw hi)
  · have hks := keyspace_step l s (.advance i now)
    rw [requesting, hc] at hks
    dsimp only [Option.map_some] at hks
    rw [queued?, hks]
    cases hq : c.stage.request l with
    | none => rfl
    | some q =>
        dsimp only
        rw [Stage.pending_answer_of_quiet hq hw hi hh hp, queued?]
  · cases hc' : (s.step l (.advance i now)).clients i with
    | none => rw [Action.client, held?, hc', Option.bind_none, hbefore]
    | some c' =>
        rcases client_step hc' with ⟨j, id, now', call, ha, -⟩ | ⟨d, now', answer, hd, rfl, -⟩
        · simp at ha
        · rw [Action.client, hc, Option.some_inj] at hd
          subst hd
          refine (held?_of_clients hc').trans (Eq.trans ?_ hbefore.symm)
          exact Stage.held?_resume_of_none hh hp answer

/-! ### Orderly runs -/

/-- A client begins a call when its last one is over, and no failure loses a popped entry. -/
def Permits (s : System) : Action → Prop
  | .begin i _ _ _ => ∀ c ∈ s.clients i, c.stage.isFinished = true
  | .advance _ _ => True
  | .fault i _ fault => ∀ c ∈ s.clients i, c.stage.tolerates fault = true

instance (s : System) (a : Action) : Decidable (s.Permits a) :=
  match a with
  | .begin i _ _ _ => inferInstanceAs (Decidable (∀ c ∈ s.clients i, c.stage.isFinished = true))
  | .advance _ _ => inferInstanceAs (Decidable True)
  | .fault i _ fault =>
    inferInstanceAs (Decidable (∀ c ∈ s.clients i, c.stage.tolerates fault = true))

/-- Every action of a run is permitted where it stands. -/
def Orderly (l : Layout) (actions : List Action) : Prop :=
  Throughout (fun p a => (run l p).Permits a) actions

instance (l : Layout) (actions : List Action) : Decidable (Orderly l actions) :=
  inferInstanceAs (Decidable (Throughout _ actions))

lemma orderly_append_singleton {actions : List Action} :
    Orderly l (actions ++ [a]) ↔ Orderly l actions ∧ (run l actions).Permits a :=
  throughout_append_singleton

/-- Every permitted action keeps track of the waiting tasks. -/
theorem Tracked.step (hinv : Inv l used s) (h : Tracked l s) (hpermits : s.Permits a) :
    Tracked l (s.step l a) := by
  cases a with
  | begin i id now call =>
      have hnone : s.held? i = none := by
        cases hc : s.clients i with
        | none => rw [held?, hc, Option.bind_none]
        | some c =>
            rw [held?_of_clients hc]
            exact Stage.held?_of_isFinished (hpermits c hc)
      have hclient : (s.step l (.begin i id now call)).clients i
          = some ⟨call, Stage.start id now call⟩ := Function.update_self _ _ _
      refine h.step_of_still (fun _ => rfl) ?_ fun _ => rfl
      exact ((held?_of_clients hclient).trans (Stage.held?_start id now call)).trans hnone.symm
  | advance i now =>
      cases hc : s.clients i with
      | none => rwa [System.step, hc]
      | some c =>
          cases hwrite : c.stage.write? with
          | some w =>
              cases hw : s.commit? l (.advance i now) with
              | some w' => exact h.step_of_commit? hinv hw
              | none => exact h.step_refused hinv now hc hwrite hw
          | none =>
              cases hi : c.stage.insert? with
              | some t => exact h.step_storing hinv now hc hi
              | none =>
                  obtain ⟨call, stage⟩ := c
                  cases stage with
                  | popping worker => exact h.step_popping hinv now hc
                  | claiming worker id x tries => exact h.step_claiming hinv now hc
                  | restoring id x e => exact h.step_restoring hinv now hc
                  | leasing => simp [Stage.write?] at hwrite
                  | _ => exact h.step_quiet hinv now hc hwrite hi rfl fun _ => Stage.noConfusion
  | fault i now fault =>
      cases hc : s.clients i with
      | none => rwa [System.step, hc]
      | some c =>
          have hstep : s.step l (.fault i now fault)
              = s.put i ⟨c.call, c.stage.resume l now fault.answer⟩ := by rw [System.step, hc]
          have hclient : (s.step l (.fault i now fault)).clients i
              = some ⟨c.call, c.stage.resume l now fault.answer⟩ := by
            rw [hstep]
            exact Function.update_self _ _ _
          refine h.step_of_still (fun _ => by rw [hstep]; rfl) ?_ fun _ => by rw [hstep]; rfl
          exact ((held?_of_clients hclient).trans (Stage.held?_resume_fault (hpermits c hc))).trans
            (held?_of_clients hc).symm

/-- After every orderly run that gives each new task its own id, the waiting tasks are tracked. -/
theorem tracked_run {actions : List Action} (hids : (created actions).Nodup)
    (horderly : Orderly l actions) : Tracked l (run l actions) := by
  induction actions using List.reverseRecOn with
  | nil => exact tracked_empty l
  | append_singleton actions a ih =>
      rw [orderly_append_singleton] at horderly
      have hinv : Inv l (created actions) (run l actions) := inv_run_of_eq_append hids rfl
      rw [created_append] at hids
      rw [run_append_singleton]
      exact (ih hids.of_append_left horderly.1).step hinv horderly.2

end System

end LeaseQueue
