/-
One lease at a time, and one end.

* `System.Leases`, `System.Acks`: an action ends a dequeue that returns a task, or an
  acknowledgement that succeeds;
* `leases_iff`: a dequeue returns a task by the action that moves the task from waiting to leased,
  and every such move is a dequeue;
* `Acks.finishes`, `acks_or_sweeps`: an acknowledgement succeeds by the action that finishes its
  task, and whatever else finishes a task is a sweep;
* `Exclusive`, `exclusive_run`: what follows for whole runs; between two leases of a task it is
  requeued, one acknowledgement of it succeeds at most, and then it keeps its status and result.
-/
import LeaseQueue.Proofs.Clients.Invariant

namespace LeaseQueue

namespace Stage

variable {l : Layout} {now : Timestamp} {stage : Stage} {answer : Except StoreError Reply}
  {call : Call} {t : Task} {w : GuardedWrite}

/-! ### What ends a call -/

/-- A dequeue returns a task when its lease has been written. -/
lemma Fits.of_resume_eq_found {worker : String} (h : stage.Fits (.dequeue worker))
    (hq : stage.request l ≠ none)
    (hr : stage.resume l now answer = .finished (.ok (.found (some t)))) :
    ∃ w, stage.write? = some w ∧ w.transition.isClaim = true ∧ w.written = t ∧
      answer = .ok (.committed true) := by
  cases stage with
  | popping worker' =>
      dsimp only [Stage.resume] at hr
      split at hr <;> simp [fail] at hr
  | claiming worker' id score tries =>
      dsimp only [Stage.resume] at hr
      unfold claimRead at hr
      split at hr
      · split_ifs at hr
      all_goals simp at hr
  | leasing worker' id score tries read claimed =>
      dsimp only [Stage.resume] at hr
      split at hr
      · simp only [finished.injEq, Except.ok.injEq, Outcome.found.injEq, Option.some_inj] at hr
        exact ⟨_, rfl, rfl, hr, rfl⟩
      · cases tries <;> simp [retryClaim] at hr
      all_goals simp at hr
  | restoring id score error => simp [Stage.resume, fail] at hr
  | finished r => simp [request] at hq
  | storing => simp [Fits, Call.isEnqueue] at h
  | _ => simp [Fits] at h

/-- An acknowledgement succeeds when its task has been written. -/
lemma Fits.of_resume_eq_task {id : String} {success : Bool} {result : Option String}
    (h : stage.Fits (.ack id success result)) (hq : stage.request l ≠ none)
    (hr : stage.resume l now answer = .finished (.ok (.task t))) :
    ∃ w, stage.write? = some w ∧ w.transition = .finish success result w.written.updatedAt ∧
      w.read.id = id ∧ answer = .ok (.committed true) := by
  cases stage with
  | acking id' success' result' tries =>
      dsimp only [Stage.resume] at hr
      unfold ackRead at hr
      split at hr
      · split at hr <;> simp [fail] at hr
      all_goals simp [fail] at hr
  | finishing id' success' result' tries read done =>
      obtain ⟨hcall, hid, -⟩ := h
      obtain ⟨rfl, rfl, rfl⟩ := Call.ack.inj hcall
      dsimp only [Stage.resume] at hr
      split at hr
      · exact ⟨_, rfl, rfl, hid, rfl⟩
      · split_ifs at hr
        simp [fail] at hr
      all_goals simp [fail] at hr
  | finished r => simp [request] at hq
  | storing => simp [Fits, Call.isEnqueue] at h
  | _ => simp [Fits] at h

/-- A lease that is written ends a dequeue with the task. -/
lemma Fits.of_isClaim (l : Layout) (now : Timestamp) (h : stage.Fits call)
    (hw : stage.write? = some w) (hclaim : w.transition.isClaim = true) :
    (∃ worker, call = .dequeue worker) ∧
      stage.resume l now (.ok (.committed true)) = .finished (.ok (.found (some w.written))) := by
  cases stage with
  | leasing worker id score tries read claimed =>
      obtain rfl := Option.some.inj hw
      exact ⟨⟨worker, h.1⟩, rfl⟩
  | finishing | refreshing =>
      obtain rfl := Option.some.inj hw
      simp [Transition.isClaim] at hclaim
  | expiring sweep rest report read expired =>
      obtain rfl := Option.some.inj hw
      dsimp only at hclaim
      split_ifs at hclaim <;> simp [Transition.isClaim] at hclaim
  | _ => simp [write?] at hw

/-- A task that is finished ends an acknowledgement of it, unless a sweep writes it. -/
lemma Fits.of_finishing (l : Layout) (now : Timestamp) (h : stage.Fits call)
    (hw : stage.write? = some w) (hread : w.read.status.isTerminal = false)
    (hwritten : w.written.status.isTerminal = true) :
    (∃ success result, call = .ack w.read.id success result ∧
        stage.resume l now (.ok (.committed true)) = .finished (.ok (.task w.written))) ∨
      ∃ maxAge maxAttempts, call = .recover maxAge maxAttempts := by
  cases stage with
  | leasing worker id score tries read claimed =>
      obtain rfl := Option.some.inj hw
      obtain ⟨-, -, -, hclaimed⟩ := h
      dsimp only at hwritten
      rw [hclaimed] at hwritten
      simp [Task.claim, Status.isTerminal] at hwritten
  | finishing id success result tries read done =>
      obtain rfl := Option.some.inj hw
      obtain ⟨hcall, hid, -⟩ := h
      exact Or.inl ⟨success, result, hid ▸ hcall, rfl⟩
  | refreshing id tries read touched =>
      obtain rfl := Option.some.inj hw
      obtain ⟨-, -, htouched⟩ := h
      dsimp only at hread hwritten
      rw [htouched] at hwritten
      simp [Task.touch, hread] at hwritten
  | expiring sweep rest report read expired =>
      obtain ⟨⟨maxAge, hcall⟩, -⟩ := h
      exact Or.inr ⟨maxAge, sweep.maxAttempts, hcall⟩
  | _ => simp [write?] at hw

end Stage

namespace System

variable {l : Layout} {used : List String} {s : System} {a : Action} {id : String}

/-! ### Leases and acknowledgements -/

/-- The status of the task stored under an id. -/
def status? (l : Layout) (s : System) (id : String) : Option Status :=
  (s.keyspace.task? l id).map Task.status

/-- An action ends a dequeue that returns the task with an id. -/
def Leases (l : Layout) (s : System) (a : Action) (id : String) : Prop :=
  ∃ worker t, s.Returns l a (.dequeue worker) (.ok (.found (some t))) ∧ t.id = id

/-- An action ends an acknowledgement of an id that succeeds. -/
def Acks (l : Layout) (s : System) (a : Action) (id : String) : Prop :=
  ∃ success result t, s.Returns l a (.ack id success result) (.ok (.task t))

/-- An action is the next request of a sweep. -/
def Sweeps (s : System) (a : Action) : Prop :=
  ∃ c maxAge maxAttempts, s.clients a.client = some c ∧ c.call = .recover maxAge maxAttempts

/-- An action puts a leased task back into the queue. -/
def Requeues (l : Layout) (s : System) (a : Action) (id : String) : Prop :=
  s.status? l id = some .inProgress ∧ (s.step l a).status? l id = some .pending

/-- An action finishes a task. -/
def Finishes (l : Layout) (s : System) (a : Action) (id : String) : Prop :=
  ∃ before after, s.status? l id = some before ∧ before.isTerminal = false ∧
    (s.step l a).status? l id = some after ∧ after.isTerminal = true

/-- The stage that an action resumes, with the answer it gets. -/
lemma Returns.resumes {call : Call} {result : Except StoreError Outcome}
    (h : s.Returns l a call result) :
    ∃ stage now answer, s.clients a.client = some ⟨call, stage⟩ ∧ stage.request l ≠ none ∧
      stage.resume l now answer = .finished result ∧
      ((∃ fault : Fault, answer = fault.answer) ∨
        (a = .advance a.client now ∧
          ∀ q, stage.request l = some q → answer = .ok (s.keyspace.answer q).1)) := by
  obtain ⟨stage, hstage, hq, hend, hbegin⟩ := h
  rcases client_step hend with ⟨i, id, now, c, ha, -⟩ | ⟨c, now, answer, hc, heq, hanswer⟩
  · exact absurd ha (hbegin i id now c)
  · rw [hstage, Option.some_inj] at hc
    subst hc
    obtain ⟨-, hresume⟩ := Client.mk.inj heq
    refine ⟨stage, now, answer, hstage, hq, hresume.symm, ?_⟩
    rcases hanswer with ⟨fault, -, hfault⟩ | hadvance
    · exact Or.inl ⟨fault, hfault⟩
    · exact Or.inr hadvance

/-- An answer that a batch is applied comes from the keyspace, whose guards held. -/
lemma commit?_of_answer {call : Call} {stage : Stage} {now : Timestamp}
    {answer : Except StoreError Reply} {w : GuardedWrite}
    (hc : s.clients a.client = some ⟨call, stage⟩) (hfits : stage.Fits call)
    (hw : stage.write? = some w) (htrue : answer = .ok (.committed true))
    (hanswer : (∃ fault : Fault, answer = fault.answer) ∨
      (a = .advance a.client now ∧
        ∀ q, stage.request l = some q → answer = .ok (s.keyspace.answer q).1)) :
    s.commit? l a = some w := by
  rcases hanswer with ⟨fault, rfl⟩ | ⟨ha, hq⟩
  · cases fault <;> simp [Fault.answer] at htrue
  · rw [hq _ (hfits.request_of_write? hw), Except.ok.injEq] at htrue
    have hguards : (l.guarded w.read).guards.all s.keyspace.holds = true := by
      rw [Keyspace.answer, Keyspace.commit_eq, GuardedWrite.guards_batch] at htrue
      by_contra hnot
      rw [if_neg hnot] at htrue
      simp at htrue
    have hrequesting : s.requesting a = some stage := by
      rw [ha, requesting, hc]
      rfl
    rw [commit?, hrequesting, Option.bind_some, hw, Option.filter_some, if_pos hguards]

/-- A batch that is committed is answered so. -/
lemma client_step_of_commit? (hfits : ∀ {i c}, s.clients i = some c → c.stage.Fits c.call)
    {w : GuardedWrite} (hw : s.commit? l a = some w) :
    ∃ now c, s.clients a.client = some c ∧ c.stage.write? = some w ∧
      (s.step l a).clients a.client
        = some ⟨c.call, c.stage.resume l now (.ok (.committed true))⟩ := by
  obtain ⟨now, c, ha, hc, hwrite, hguards⟩ := of_commit? hw
  refine ⟨now, c, hc, hwrite, ?_⟩
  have hq := (hfits hc).request_of_write? (l := l) hwrite
  have hanswer : (s.keyspace.answer (.commit (w.batch l))).1 = .committed true := by
    rw [Keyspace.answer, Keyspace.commit_eq, GuardedWrite.guards_batch, if_pos hguards]
  rw [ha, step, ← ha, hc]
  dsimp only
  rw [Stage.advance_of_request hq, hanswer]
  exact Function.update_self _ _ _

lemma Inv.status?_of_commit? (h : Inv l used s) {w : GuardedWrite} (hw : s.commit? l a = some w) :
    s.status? l w.read.id = some w.read.status ∧
      (s.step l a).status? l w.read.id = some w.written.status := by
  obtain ⟨stored, hst⟩ := h.committing hw
  constructor
  · rw [status?, hst.task?, Option.map_some, hst.status]
  · rw [status?, h.task?_step_of_commit? hw, Option.map_some, Task.kept_status]

/-- A status changes by a guarded batch. -/
lemma Inv.commit?_of_status?_ne (h : Inv l used s) {before after : Status}
    (hbefore : s.status? l id = some before) (hafter : (s.step l a).status? l id = some after)
    (hne : before ≠ after) :
    ∃ w, s.commit? l a = some w ∧ w.read.id = id ∧ w.read.status = before ∧
      w.written.status = after := by
  by_cases hcommits : s.Commits l a id
  · obtain ⟨w, hw, rfl⟩ := hcommits
    obtain ⟨hread, hwritten⟩ := h.status?_of_commit? hw
    rw [hbefore, Option.some_inj] at hread
    rw [hafter, Option.some_inj] at hwritten
    exact ⟨w, hw, rfl, hread.symm, hwritten.symm⟩
  · rw [status?, Option.map_eq_some_iff] at hbefore
    obtain ⟨t, ht, rfl⟩ := hbefore
    rw [status?, h.task?_step_of_not_commits hcommits ht, Option.map_some, Option.some_inj]
      at hafter
    exact absurd hafter hne

/-- A batch that ends a call with a result returns it. -/
lemma returns_of_commit? (hfits : ∀ {i c}, s.clients i = some c → c.stage.Fits c.call)
    {w : GuardedWrite} (hw : s.commit? l a = some w) {call : Call} {stage : Stage}
    {result : Except StoreError Outcome} (hc : s.clients a.client = some ⟨call, stage⟩)
    (hwrite : stage.write? = some w)
    (hend : (s.step l a).clients a.client = some ⟨call, .finished result⟩) :
    s.Returns l a call result := by
  refine ⟨stage, hc, ?_, hend, fun i id now c ha => ?_⟩
  · rw [Stage.Fits.request_of_write? (hfits hc) hwrite]
    simp
  · rw [ha] at hw
    simp [commit?, requesting] at hw

/-- A dequeue returns a task by the action that moves the task from waiting to leased, and every
such move is a dequeue that returns the task. -/
theorem leases_iff (h : Inv l used s) :
    s.Leases l a id ↔
      s.status? l id = some .pending ∧ (s.step l a).status? l id = some .inProgress := by
  constructor
  · rintro ⟨worker, t, hreturns, rfl⟩
    obtain ⟨stage, now, answer, hc, hq, hr, hanswer⟩ := hreturns.resumes
    have hfits : stage.Fits (.dequeue worker) := h.fits hc
    obtain ⟨w, hw, hclaim, rfl, htrue⟩ := hfits.of_resume_eq_found hq hr
    have hcommit := commit?_of_answer hc hfits hw htrue hanswer
    obtain ⟨stored, hst⟩ := h.committing hcommit
    obtain ⟨hread, hwritten⟩ := (Transition.isClaim_iff hst.act).mp hclaim
    rw [(Transition.sameIdentity_act? hst.act).1, ← hread, ← hwritten]
    exact h.status?_of_commit? hcommit
  · rintro ⟨hbefore, hafter⟩
    obtain ⟨w, hw, rfl, hread, hwritten⟩ := h.commit?_of_status?_ne hbefore hafter (by decide)
    obtain ⟨stored, hst⟩ := h.committing hw
    have hclaim := (Transition.isClaim_iff hst.act).mpr ⟨hread, hwritten⟩
    obtain ⟨now, ⟨call, stage⟩, hc, hwrite, hstep⟩ := client_step_of_commit? h.fits hw
    have hfits : stage.Fits call := h.fits hc
    obtain ⟨⟨worker, rfl⟩, hr⟩ := Stage.Fits.of_isClaim l now hfits hwrite hclaim
    have hreturns := returns_of_commit? h.fits hw hc hwrite (by rw [hstep, hr])
    exact ⟨worker, w.written, hreturns, (Transition.sameIdentity_act? hst.act).1⟩

/-- An acknowledgement succeeds by the action that finishes its task. -/
theorem Acks.finishes (h : Inv l used s) (hack : s.Acks l a id) : s.Finishes l a id := by
  obtain ⟨success, result, t, hreturns⟩ := hack
  obtain ⟨stage, now, answer, hc, hq, hr, hanswer⟩ := hreturns.resumes
  have hfits : stage.Fits (.ack id success result) := h.fits hc
  obtain ⟨w, hw, hfinish, rfl, htrue⟩ := hfits.of_resume_eq_task hq hr
  have hcommit := commit?_of_answer hc hfits hw htrue hanswer
  obtain ⟨stored, hst⟩ := h.committing hcommit
  have hact := hst.act
  rw [hfinish, Transition.act?] at hact
  obtain ⟨-, hread, hwritten⟩ := Transition.of_finish hact
  obtain ⟨hbefore, hafter⟩ := h.status?_of_commit? hcommit
  exact ⟨_, _, hbefore, hread, hafter, hwritten⟩

/-- A task is finished by an acknowledgement that succeeds or by a sweep. -/
theorem acks_or_sweeps (h : Inv l used s) (hfinish : s.Finishes l a id) :
    s.Acks l a id ∨ s.Sweeps a := by
  obtain ⟨before, after, hbefore, hread, hafter, hwritten⟩ := hfinish
  have hne : before ≠ after := fun heq => by simp [heq, hwritten] at hread
  obtain ⟨w, hw, rfl, rfl, rfl⟩ := h.commit?_of_status?_ne hbefore hafter hne
  obtain ⟨now, ⟨call, stage⟩, hc, hwrite, hstep⟩ := client_step_of_commit? h.fits hw
  have hfits : stage.Fits call := h.fits hc
  rcases Stage.Fits.of_finishing l now hfits hwrite hread hwritten with
    ⟨success, result, rfl, hr⟩ | ⟨maxAge, maxAttempts, rfl⟩
  · have hreturns := returns_of_commit? h.fits hw hc hwrite (by rw [hstep, hr])
    exact Or.inl ⟨success, result, w.written, hreturns⟩
  · exact Or.inr ⟨_, maxAge, maxAttempts, hc, rfl⟩

/-! ### Whole runs -/

lemma created_append (p q : List Action) : created (p ++ q) = created p ++ created q :=
  List.flatMap_append

/-- The invariant holds on the way of a run. -/
lemma inv_run_of_eq_append {actions p q : List Action} (hids : (created actions).Nodup)
    (h : actions = p ++ q) : Inv l (created p) (run l p) := by
  refine inv_run l ?_
  rw [h, created_append] at hids
  exact hids.of_append_left

/-- A status stays or changes along an edge. -/
lemma Inv.status?_step (h : Inv l used s) (a : Action) {st : Status}
    (hst : s.status? l id = some st) :
    ∃ st', (s.step l a).status? l id = some st' ∧ (st' = st ∨ Status.Next st st') := by
  rw [status?, Option.map_eq_some_iff] at hst
  obtain ⟨t, ht, rfl⟩ := hst
  obtain ⟨t', ht', hfollows⟩ := h.follows_step a ht
  exact ⟨t'.status, by rw [status?, ht', Option.map_some], hfollows.status⟩

/-- A stored task stays stored, and a finished one keeps its status and result. -/
lemma follows_run {p q : List Action} (hids : (created (p ++ q)).Nodup) {t : Task}
    (ht : (run l p).keyspace.task? l id = some t) :
    ∃ t', (run l (p ++ q)).keyspace.task? l id = some t' ∧
      (t.status.isTerminal = true → t'.status = t.status ∧ t'.result = t.result) := by
  induction q using List.reverseRecOn with
  | nil => exact ⟨t, by rwa [List.append_nil], fun _ => ⟨rfl, rfl⟩⟩
  | append_singleton q a ih =>
      rw [← List.append_assoc] at hids ⊢
      have hinv : Inv l (created (p ++ q)) (run l (p ++ q)) := inv_run_of_eq_append hids rfl
      rw [created_append] at hids
      obtain ⟨t', ht', hfrozen⟩ := ih hids.of_append_left
      obtain ⟨t'', ht'', hfollows⟩ := hinv.follows_step a ht'
      refine ⟨t'', by rwa [run_append_singleton], fun hs => ?_⟩
      obtain ⟨hstatus, hresult⟩ := hfrozen hs
      obtain ⟨hstatus', hresult'⟩ := hfollows.frozen (hstatus ▸ hs)
      exact ⟨hstatus'.trans hstatus, hresult'.trans hresult⟩

/-- A task that is leased and later waits has been requeued in between. -/
lemma exists_requeue {p m : List Action} (hids : (created (p ++ m)).Nodup)
    (hp : (run l p).status? l id = some .inProgress)
    (hm : (run l (p ++ m)).status? l id = some .pending) :
    ∃ m₁ c m₂, m = m₁ ++ c :: m₂ ∧ (run l (p ++ m₁)).Requeues l c id := by
  induction m using List.reverseRecOn with
  | nil =>
      rw [List.append_nil, hp] at hm
      simp at hm
  | append_singleton m c ih =>
      rw [← List.append_assoc] at hids hm
      have hinv : Inv l (created (p ++ m)) (run l (p ++ m)) := inv_run_of_eq_append hids rfl
      rw [created_append] at hids
      rw [status?, Option.map_eq_some_iff] at hp
      obtain ⟨t, ht, -⟩ := hp
      obtain ⟨t', ht', -⟩ := follows_run hids.of_append_left ht
      have hst : (run l (p ++ m)).status? l id = some t'.status := by
        rw [status?, ht', Option.map_some]
      by_cases hpending : t'.status = .pending
      · obtain ⟨m₁, c', m₂, rfl, hrequeue⟩ := ih hids.of_append_left (hpending ▸ hst)
        exact ⟨m₁, c', m₂ ++ [c], by simp, hrequeue⟩
      · rw [run_append_singleton] at hm
        obtain ⟨st', hst', hnext⟩ := hinv.status?_step c hst
        rw [hm, Option.some_inj] at hst'
        subst hst'
        rcases hnext with heq | hnext
        · exact absurd heq.symm hpending
        · rw [hnext.eq_inProgress] at hst
          exact ⟨m, c, [], rfl, hst, hm⟩

/-- One lease at a time and one end, for the task of an id in a run. -/
structure Exclusive (l : Layout) (actions : List Action) (id : String) : Prop where
  /-- The status stays or changes along an edge, and the task stays stored. -/
  status : ∀ p a q, actions = p ++ a :: q → ∀ st, (run l p).status? l id = some st →
    ∃ st', (run l (p ++ [a])).status? l id = some st' ∧ (st' = st ∨ Status.Next st st')
  /-- The dequeues that return the task are the moves from waiting to leased. -/
  lease : ∀ p a q, actions = p ++ a :: q → ((run l p).Leases l a id ↔
    (run l p).status? l id = some .pending ∧ (run l (p ++ [a])).status? l id = some .inProgress)
  /-- An acknowledgement that succeeds finishes the task; only sweeps finish it besides. -/
  ack : ∀ p a q, actions = p ++ a :: q →
    ((run l p).Acks l a id → (run l p).Finishes l a id) ∧
      ((run l p).Finishes l a id → (run l p).Acks l a id ∨ (run l p).Sweeps a)
  /-- Between two dequeues that return the task it is requeued. -/
  requeued : ∀ p a m b q, actions = p ++ a :: (m ++ b :: q) → (run l p).Leases l a id →
    (run l (p ++ a :: m)).Leases l b id →
    ∃ m₁ c m₂, m = m₁ ++ c :: m₂ ∧ (run l (p ++ a :: m₁)).Requeues l c id
  /-- After an acknowledgement that succeeds no other does. -/
  once : ∀ p a m b q, actions = p ++ a :: (m ++ b :: q) → (run l p).Acks l a id →
    ¬ (run l (p ++ a :: m)).Acks l b id
  /-- A finished task keeps its status and its result. -/
  frozen : ∀ p q t, actions = p ++ q → (run l p).keyspace.task? l id = some t →
    t.status.isTerminal = true → ∃ t', (run l actions).keyspace.task? l id = some t' ∧
      t'.status = t.status ∧ t'.result = t.result

/-- One lease at a time and one end, in every run of clients that share a keyspace. -/
theorem exclusive_run (l : Layout) (actions : List Action) (hids : (created actions).Nodup)
    (id : String) : Exclusive l actions id where
  status p a q h st hst := by
    have hinv : Inv l (created p) (run l p) := inv_run_of_eq_append hids h
    rw [run_append_singleton]
    exact hinv.status?_step a hst
  lease p a q h := by
    have hinv : Inv l (created p) (run l p) := inv_run_of_eq_append hids h
    rw [run_append_singleton]
    exact leases_iff hinv
  ack p a q h := by
    have hinv : Inv l (created p) (run l p) := inv_run_of_eq_append hids h
    exact ⟨fun hack => hack.finishes hinv, acks_or_sweeps hinv⟩
  requeued p a m b q h ha hb := by
    have hsplit : actions = (p ++ a :: m) ++ b :: q := by simp [h]
    have hinv : Inv l (created p) (run l p) := inv_run_of_eq_append hids h
    have hinv' : Inv l (created (p ++ a :: m)) (run l (p ++ a :: m)) :=
      inv_run_of_eq_append hids hsplit
    have hleased := ((leases_iff hinv).mp ha).2
    have hwaiting := ((leases_iff hinv').mp hb).1
    have hcons : ∀ r : List Action, p ++ a :: r = (p ++ [a]) ++ r := by simp
    rw [← run_append_singleton] at hleased
    rw [hsplit, created_append] at hids
    rw [hcons] at hwaiting hids
    obtain ⟨m₁, c, m₂, hm, hrequeue⟩ := exists_requeue hids.of_append_left hleased hwaiting
    exact ⟨m₁, c, m₂, hm, by rwa [hcons]⟩
  once p a m b q h ha hb := by
    have hsplit : actions = (p ++ a :: m) ++ b :: q := by simp [h]
    have hinv : Inv l (created p) (run l p) := inv_run_of_eq_append hids h
    have hinv' : Inv l (created (p ++ a :: m)) (run l (p ++ a :: m)) :=
      inv_run_of_eq_append hids hsplit
    obtain ⟨-, after, -, -, hafter, hterminal⟩ := ha.finishes hinv
    obtain ⟨before, -, hbefore, hopen, -, -⟩ := hb.finishes hinv'
    have hcons : p ++ a :: m = (p ++ [a]) ++ m := by simp
    rw [← run_append_singleton, status?, Option.map_eq_some_iff] at hafter
    obtain ⟨t, ht, rfl⟩ := hafter
    rw [hsplit, created_append, hcons] at hids
    obtain ⟨t', ht', hfrozen⟩ := follows_run hids.of_append_left ht
    rw [hcons, status?, ht', Option.map_some, Option.some_inj] at hbefore
    rw [← hbefore, (hfrozen hterminal).1, hterminal] at hopen
    simp at hopen
  frozen p q t h ht hs := by
    subst h
    obtain ⟨t', ht', hfrozen⟩ := follows_run hids ht
    exact ⟨t', ht', hfrozen hs⟩

/-- A run in which a task is leased, requeued after a refused batch, leased again by a client that
had found nothing, and acknowledged by two clients at once. -/
def contendedRun : List Action :=
  [.begin 0 "a" 5 (.enqueue "mail" "hello" ∅), .advance 0 5, .begin 1 "" 6 (.dequeue "w"),
    .advance 1 6, .begin 2 "" 6 (.dequeue "v"), .advance 2 6, .advance 1 7, .advance 1 7,
    .begin 3 "" 20 (.recover 5 3), .advance 3 20, .advance 3 20, .fault 3 20 .refused,
    .begin 3 "" 21 (.recover 5 3), .advance 3 21, .advance 3 21, .advance 3 21,
    .begin 2 "" 22 (.dequeue "v"), .advance 2 22, .advance 2 22, .advance 2 22,
    .begin 4 "" 30 (.ack "a" true (some "done")), .begin 5 "" 30 (.ack "a" false none),
    .advance 4 30, .advance 5 30, .advance 4 31, .advance 5 31, .advance 5 31]

theorem exclusive_contendedRun :
    (created contendedRun).Nodup ∧ Exclusive ⟨Layout.standardName⟩ contendedRun "a" ∧
      (run ⟨Layout.standardName⟩ contendedRun).status? ⟨Layout.standardName⟩ "a"
        = some .completed := by
  have hids : (created contendedRun).Nodup := by decide
  refine ⟨hids, exclusive_run ⟨Layout.standardName⟩ contendedRun hids "a", ?_⟩
  decide +kernel

end System

end LeaseQueue
