/-
Calls whose guarded batches are refused, on a keyspace that keeps a ledger.

* `Call.Hands`: a call finishes or refreshes the task that it names, or leases one;
* `Keyspace.Weathers`: what refusals of its first guarded batches do to a call: nothing at all, or
  nothing while they are fewer than its tries; otherwise it gives up and leaves all as it was;
* `Weathers.of_retries`: a call is so whose loop under guards, if it gives up, undoes what came
  before it;
* `Holds.weathers_acking`, `Holds.weathers_beating`, `Holds.weathers_popping`: so is every call that
  writes a task under guards and tries again.
-/
import LeaseQueue.Proofs.Keyspace.Refusing
import LeaseQueue.Proofs.Ledger.Keyspace

namespace LeaseQueue

/-- A call hands out a task: it finishes or refreshes the one that it names, or leases one. -/
inductive Call.Hands : Call → Outcome → Task → Prop
  | finished (success : Bool) (result : Option String) (t : Task) :
    Hands (.ack t.id success result) (.task t) t
  | refreshed (t : Task) : Hands (.heartbeat t.id) (.task t) t
  | leased (worker : String) (t : Task) : Hands (.dequeue worker) (.found (some t)) t

lemma Call.Hands.returns {c : Call} {o : Outcome} {t : Task} (h : c.Hands o t) : c.Returns o := by
  cases h <;> trivial

namespace Keyspace

open Stage (Runs Retries maxTries contends)

/-- Refusals of the first guarded batches of a call do nothing at all; or they do nothing while they
are fewer than its tries, and otherwise the call gives up on the task that it would have handed out,
and leaves all as it was. -/
inductive Weathers (l : Layout) (now : Timestamp) (c : Call) (stage : Stage) (ks : Keyspace) : Prop
  | calm {res : Except StoreError Outcome} {ks' : Keyspace} (hres : ∀ o, res = .ok o → c.Returns o)
    (h : ∀ r, ∃ tr, Runs l now (2 * maxTries + 2) stage (⟨ks, r⟩ : Refusing) tr res ⟨ks', r⟩ ∧
      contends l tr = false)
  | contended {o : Outcome} {t : Task} {ks' : Keyspace} (ht : c.Hands o t)
    (hfew : ∀ r < maxTries, ∃ tr,
      Runs l now (2 * maxTries + 2) stage (⟨ks, r⟩ : Refusing) tr (.ok o) ⟨ks', 0⟩)
    (hmany : ∀ r, ∃ tr, Runs l now (2 * maxTries + 2) stage (⟨ks, r + maxTries⟩ : Refusing) tr
        (.error (.contention t.id)) ⟨ks, r⟩ ∧ contends l tr = true)

namespace Weathers

variable {l : Layout} {now : Timestamp} {c : Call} {stage : Stage} {ks ks' : Keyspace}

/-- A call that is over after one request that is not refused. -/
lemma of_request {q : Request} {a : Reply} {res : Except StoreError Outcome}
    (hq : stage.request l = some q) (hguarded : q.isGuarded = false) (ha : ks.answer q = (a, ks'))
    (hover : stage.resume l now (.ok a) = .finished res) (hres : ∀ o, res = .ok o → c.Returns o) :
    Weathers l now c stage ks := by
  have hrun : ∀ r, Runs l now (2 * maxTries + 1) (stage.resume l now (.ok a))
      (⟨ks', r⟩ : Refusing) [] res ⟨ks', r⟩ := by
    rw [hover]
    exact fun r => .finished
  have hcalm : contends l [(stage, .ok a)] = false := by
    rw [Stage.contends_cons hq, hguarded]
    rfl
  exact .calm hres fun r => ⟨_, .ask hq (.inl hguarded) ha (hrun r), hcalm⟩

/-- A loop under guards, after at most one request that is not refused, that gives up with at most
one request that undoes it. -/
lemma of_retries {before : Keyspace} {reading writing : Nat → Stage} {o : Outcome} {t : Task}
    (h : Retries l now ks ks' (.ok o) reading writing) (ht : c.Hands o t)
    (hfirst : ∀ {n r : Nat} {tr : List Stage.Event} {res : Except StoreError Outcome}
      {s : Refusing}, Runs l now n (reading maxTries) (⟨ks, r⟩ : Refusing) tr res s →
        ∃ tr', Runs l now (n + 1) stage (⟨before, r⟩ : Refusing) tr' res s ∧
          contends l tr' = contends l tr)
    (hlast : ∀ r, ∃ tr, Runs l now 1 (reading 0) (⟨ks, r⟩ : Refusing) tr
      (.error (.contention t.id)) ⟨before, r⟩) :
    Weathers l now c stage before := by
  have hfew : ∀ r < maxTries, ∃ tr, Runs l now (2 * maxTries + 2) stage (⟨before, r⟩ : Refusing) tr
      (.ok o) ⟨ks', 0⟩ := by
    intro r hr
    obtain ⟨tr, hrun⟩ := h.runs_of_lt hr
    obtain ⟨tr', hrun', -⟩ := hfirst hrun
    exact ⟨tr', hrun'.mono (by omega)⟩
  refine .contended ht hfew fun r => ?_
  obtain ⟨tr, hend⟩ := hlast r
  obtain ⟨tr', hrun, hcontends⟩ := h.runs_of_le (by decide : 0 < maxTries) hend
  obtain ⟨tr'', hrun', hsame⟩ := hfirst hrun
  exact ⟨tr'', hrun'.mono (by omega), hsame.trans hcontends⟩

/-- A loop under guards that is the whole call. -/
lemma of_bare_retries {reading writing : Nat → Stage} {o : Outcome} {t : Task}
    (h : Retries l now ks ks' (.ok o) reading writing) (ht : c.Hands o t)
    (hover : reading 0 = Stage.fail (.contention t.id)) :
    Weathers l now c (reading maxTries) ks := by
  refine .of_retries h ht (fun hrun => ⟨_, hrun.mono (Nat.le_succ _), rfl⟩) fun r => ⟨[], ?_⟩
  rw [hover]
  exact .finished

end Weathers

namespace Holds

variable {l : Layout} {lost : Set String} {ks : Keyspace} {L : Ledger} {now : Timestamp}

/-! ### Loops on one task -/

/-- Finishing a task that may be finished. -/
lemma retries_acking (h : Holds l lost ks L) {id : String} {success : Bool}
    {result : Option String} {t t' : Task} (ht : L.get? id = some t)
    (hfinish : t.finish success result now = .ok t') :
    ∃ ks', Retries l now ks ks' (.ok (.task t'))
      (fun k => if k = 0 then Stage.fail (.contention id) else .acking id success result k)
      (fun k => .finishing id success result k t t') := by
  obtain ⟨ks', hanswer, -⟩ := h.transition (Ledger.id_of_get? ht ▸ ht)
    (Task.sameIdentity_finish hfinish) (Task.clean_finish hfinish)
  refine ⟨ks', fun k => ⟨l.taskKey id, rfl, ?_⟩, ⟨_, List.cons_ne_nil _ _, hanswer, fun _ => rfl⟩,
    fun _ => rfl, fun _ => rfl⟩
  rw [if_neg k.succ_ne_zero, Stage.resume, h.indexed.sound.loaded_readHash, h.task?_eq, ht]
  dsimp only [Stage.ackRead]
  rw [hfinish]
  rfl

lemma weathers_acking (h : Holds l lost ks L) (id : String) (success : Bool)
    (result : Option String) :
    Weathers l now (.ack id success result) (.acking id success result maxTries) ks := by
  have hread : (Stage.acking id success result maxTries).resume l now
      (.ok (.fields (ks.hash (l.taskKey id))))
        = Stage.ackRead now id success result maxTries (.ok (L.get? id)) := by
    rw [Stage.resume, h.indexed.sound.loaded_readHash, h.task?_eq]
  cases ht : L.get? id with
  | none =>
      rw [ht] at hread
      exact .of_request rfl rfl rfl hread (by simp)
  | some t =>
      rw [ht] at hread
      cases hfinish : t.finish success result now with
      | error e =>
          simp only [Stage.ackRead, hfinish] at hread
          exact .of_request rfl rfl rfl hread (by simp)
      | ok t' =>
          obtain ⟨ks', hretries⟩ := h.retries_acking ht hfinish
          obtain rfl : t'.id = id :=
            (Task.sameIdentity_finish hfinish).1.trans (Ledger.id_of_get? ht)
          -- the loop is that of `hretries`; the goal only shows its first stage
          have hweathers := Weathers.of_bare_retries hretries (.finished success result t') rfl
          exact hweathers

/-- Refreshing a task. -/
lemma retries_beating (h : Holds l lost ks L) {id : String} {t : Task} (ht : L.get? id = some t)
    (now : Timestamp) :
    ∃ ks', Retries l now ks ks' (.ok (.task (t.touch now)))
      (fun k => if k = 0 then Stage.fail (.contention id) else .beating id k)
      (fun k => .refreshing id k t (t.touch now)) := by
  obtain ⟨ks', hanswer, -⟩ := h.refresh ht now
  refine ⟨ks', fun k => ⟨l.taskKey id, rfl, ?_⟩, ⟨_, List.cons_ne_nil _ _, hanswer, fun _ => rfl⟩,
    fun _ => rfl, fun _ => rfl⟩
  rw [if_neg k.succ_ne_zero, Stage.resume, h.indexed.sound.loaded_readHash, h.task?_eq, ht]
  rfl

lemma weathers_beating (h : Holds l lost ks L) (id : String) :
    Weathers l now (.heartbeat id) (.beating id maxTries) ks := by
  cases ht : L.get? id with
  | none =>
      have hread : (Stage.beating id maxTries).resume l now
          (.ok (.fields (ks.hash (l.taskKey id)))) = Stage.fail (.notFound id) := by
        rw [Stage.resume, h.indexed.sound.loaded_readHash, h.task?_eq, ht]
        rfl
      exact .of_request rfl rfl rfl hread (by simp)
  | some t =>
      obtain ⟨ks', hretries⟩ := h.retries_beating ht now
      obtain rfl : t.id = id := Ledger.id_of_get? ht
      have hweathers := Weathers.of_bare_retries hretries (.refreshed (t.touch now)) rfl
      exact hweathers

/-! ### Leases -/

/-- Leasing a popped task that waits. -/
lemma retries_retryClaim (h : Holds l lost ks L) {id : String} {t : Task} (ht : L.get? id = some t)
    (hs : t.status = .pending) (worker : String) (x : Int64) (now : Timestamp) :
    ∃ ks', Retries l now ks ks' (.ok (.found (some (t.claim worker now))))
      (Stage.retryClaim worker id x) (fun k => .leasing worker id x k t (t.claim worker now)) := by
  obtain ⟨ks', hanswer, -⟩ := h.transition_kept (Ledger.id_of_get? ht ▸ ht)
    (t.sameIdentity_claim worker now)
  refine ⟨ks', fun k => ⟨l.taskKey id, rfl, ?_⟩, ⟨_, List.cons_ne_nil _ _, hanswer, fun _ => rfl⟩,
    fun _ => rfl, fun _ => rfl⟩
  rw [Stage.retryClaim, Stage.resume, h.indexed.sound.loaded_readHash, h.task?_eq, ht]
  dsimp only [Stage.claimRead]
  rw [if_pos hs]
  rfl

/-- A dequeue that gives up puts the popped id back where it was. -/
lemma weathers_popping (h : Holds l lost ks L) (worker : String) :
    Weathers l now (.dequeue worker) (.popping worker) ks := by
  rcases ks.popMin_cases l.pendingKey with ⟨-, heq⟩ | ⟨⟨id, x⟩, rest, hsome, -, -⟩
  · have hanswer : ks.answer (.popMin l.pendingKey) = (.popped none, ks) := by rw [answer, heq]
    exact .of_request rfl rfl hanswer rfl fun o ho => by cases ho; trivial
  · obtain ⟨t, popped, ht, hs, -, -, hpop, hpopped⟩ := h.pop hsome
    obtain ⟨ks', hretries⟩ := hpopped.retries_retryClaim ht hs worker x now
    have hrestored : popped.answer (.commit (l.restore id x)) = (.committed true, ks) := by
      have hpopped : (ks.popMin l.pendingKey).2 = popped := congrArg Prod.snd hpop
      have hback := h.indexed.inStep.scoredAdd_of_popMin hsome
      rw [hpopped] at hback
      exact congrArg (Prod.mk (Reply.committed true)) hback
    obtain rfl : t.id = id := Ledger.id_of_get? ht
    refine .of_retries hretries (.leased worker (t.claim worker now)) (fun hrun => ?_) fun r => ?_
    · refine ⟨_, .ask rfl (.inl rfl) hpop hrun, ?_⟩
      rw [Stage.contends_cons rfl]
      rfl
    · exact ⟨_, .ask rfl (.inl rfl) hrestored .finished⟩

end Holds

end Keyspace

end LeaseQueue
