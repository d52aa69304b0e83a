/-
What holds of clients and keyspace after every run.

* `client_step`: where an action leaves the client that acts;
* `System.Inv`: the hashes are those of tasks, every stage fits its call, new tasks have new ids,
  and a task that a client has read is still stored, changed as a task may change;
* `Inv.committing`: what holds when a guarded batch is applied;
* `Inv.task?_step`: an action changes the stored tasks by its guarded batch or its new task;
* `Inv.step`, `inv_run`: every action keeps the invariant, so it holds after every run that gives
  each new task its own id.
-/
import LeaseQueue.Proofs.Clients.System

namespace LeaseQueue

namespace System

variable {l : Layout} {used : List String} {s : System} {a : Action}

/-! ### The client that acts -/

/-- A request that fails reads no task. -/
lemma loaded_fault (key : String) (fault : Fault) (t : Option Task) :
    Stage.loaded key fault.answer ≠ .ok t := by
  cases fault <;> simp [Fault.answer, Stage.loaded]

/-- An action begins a call or resumes one with an answer of the keyspace or of a fault. -/
lemma client_step {c' : Client} (h : (s.step l a).clients a.client = some c') :
    (∃ i id now call, a = .begin i id now call ∧ c' = ⟨call, Stage.start id now call⟩) ∨
      ∃ c now answer, s.clients a.client = some c ∧
        c' = ⟨c.call, c.stage.resume l now answer⟩ ∧
        ((∃ fault, a = .fault a.client now fault ∧ answer = fault.answer) ∨
          (a = .advance a.client now ∧
            ∀ q, c.stage.request l = some q → answer = .ok (s.keyspace.answer q).1)) := by
  cases a with
  | begin i id now call =>
      rw [step] at h
      refine Or.inl ⟨i, id, now, call, rfl, ?_⟩
      exact (Option.some.inj ((Function.update_self i _ _).symm.trans h)).symm
  | advance i now =>
      rw [step] at h
      dsimp only [Action.client] at h ⊢
      cases hc : s.clients i with
      | none => simp [hc] at h
      | some c =>
          rw [hc] at h
          have hc' : c' = ⟨c.call, (Stage.advance l now (c.stage, s.keyspace)).1⟩ :=
            (Option.some.inj ((Function.update_self i _ _).symm.trans h)).symm
          cases hq : c.stage.request l with
          | none =>
              obtain ⟨r, hr⟩ := Stage.request_eq_none_iff.mp hq
              refine Or.inr ⟨c, now, .error Stage.strayReply, rfl, ?_, Or.inr ⟨rfl, ?_⟩⟩
              · rw [hc', hr]
                rfl
              · intro q hq'
                rw [hq] at hq'
                simp at hq'
          | some q =>
              refine Or.inr ⟨c, now, .ok (s.keyspace.answer q).1, rfl, ?_, Or.inr ⟨rfl, ?_⟩⟩
              · rw [hc', Stage.advance_of_request hq]
              · intro q' hq'
                rw [hq, Option.some_inj] at hq'
                rw [hq']
  | fault i now fault =>
      rw [step] at h
      dsimp only [Action.client] at h ⊢
      cases hc : s.clients i with
      | none => simp [hc] at h
      | some c =>
          rw [hc] at h
          have hc' := (Option.some.inj ((Function.update_self i _ _).symm.trans h)).symm
          exact Or.inr ⟨c, now, fault.answer, rfl, hc', Or.inl ⟨fault, rfl, rfl⟩⟩

/-- The answer to a read gives the stored task. -/
lemma task?_of_loaded {stage : Stage} {answer : Except StoreError Reply}
    (hsound : s.keyspace.Sound l)
    (hanswer : (∃ fault : Fault, answer = fault.answer) ∨
      ∀ q, stage.request l = some q → answer = .ok (s.keyspace.answer q).1)
    {id : String} {t : Task} (hid : stage.reading? = some id)
    (ht : Stage.loaded (l.taskKey id) answer = .ok (some t)) :
    s.keyspace.task? l id = some t := by
  rcases hanswer with ⟨fault, rfl⟩ | hanswer
  · exact absurd ht (loaded_fault _ fault _)
  · rw [hanswer _ (Stage.request_of_reading? hid)] at ht
    have hloaded := hsound.loaded_readHash id
    exact Except.ok.inj (hloaded.symm.trans ht)

/-! ### The invariant -/

/-- A task that was read and the task that is stored now: finished tasks have kept their status and
result. -/
structure Snapshot (read stored : Task) : Prop where
  identity : Task.SameIdentity read stored
  frozen : read.status.isTerminal = true →
    stored.status = read.status ∧ stored.result = read.result

/-- What holds of a system after every run; `used` are the ids that calls have been given. -/
structure Inv (l : Layout) (used : List String) (s : System) : Prop where
  sound : s.keyspace.Sound l
  inStep : s.keyspace.InStep
  /-- Stored tasks have ids that were given. -/
  known : ∀ {id t}, s.keyspace.task? l id = some t → id ∈ used
  fits : ∀ {i c}, s.clients i = some c → c.stage.Fits c.call
  /-- A task that is about to be stored has an id that was given and is not stored yet. -/
  fresh : ∀ {i c t}, s.clients i = some c → c.stage.insert? = some t →
    t.id ∈ used ∧ s.keyspace.task? l t.id = none
  /-- No two clients are about to store tasks under one id. -/
  apart : ∀ {i j c d t u}, s.clients i = some c → s.clients j = some d →
    c.stage.insert? = some t → d.stage.insert? = some u → t.id = u.id → i = j
  /-- A task that a client has read is still stored. -/
  snapshot : ∀ {i c w}, s.clients i = some c → c.stage.write? = some w →
    ∃ t, s.keyspace.task? l w.read.id = some t ∧ Snapshot w.read t

lemma inv_empty (l : Layout) : Inv l [] empty where
  sound := Keyspace.sound_empty l
  inStep := Keyspace.inStep_empty
  known h := by simp [empty, Keyspace.task?_empty] at h
  fits h := by simp [empty] at h
  fresh h := by simp [empty] at h
  apart h := by simp [empty] at h
  snapshot h := by simp [empty] at h

/-! ### Applied batches -/

/-- A guarded write meets the task that is stored. -/
structure Committing (l : Layout) (s : System) (w : GuardedWrite) (stored : Task) : Prop where
  act : w.transition.act? w.read = some w.written
  task? : s.keyspace.task? l w.read.id = some stored
  status : stored.status = w.read.status
  updatedAt : stored.updatedAt = w.read.updatedAt
  snapshot : Snapshot w.read stored

/-- A guarded batch is committed by the client that has prepared it. -/
lemma of_commit? {w : GuardedWrite} (h : s.commit? l a = some w) :
    ∃ now c, a = .advance a.client now ∧ s.clients a.client = some c ∧
      c.stage.write? = some w ∧ (l.guarded w.read).guards.all s.keyspace.holds = true := by
  rw [commit?, Option.filter_eq_some_iff, Option.bind_eq_some_iff] at h
  obtain ⟨⟨stage, hstage, hw⟩, hguards⟩ := h
  obtain ⟨now, c, ha, hc, rfl⟩ := of_requesting hstage
  exact ⟨now, c, ha, hc, hw, hguards⟩

/-- A new task is stored by the client that has prepared it. -/
lemma of_insert? {t : Task} (h : s.insert? a = some t) :
    ∃ now c, a = .advance a.client now ∧ s.clients a.client = some c ∧
      c.stage.insert? = some t := by
  rw [insert?, Option.bind_eq_some_iff] at h
  obtain ⟨stage, hstage, ht⟩ := h
  obtain ⟨now, c, ha, hc, rfl⟩ := of_requesting hstage
  exact ⟨now, c, ha, hc, ht⟩

namespace Inv

/-- The guards of a batch that is applied tell what is stored. -/
lemma committing (h : Inv l used s) {w : GuardedWrite} (hw : s.commit? l a = some w) :
    ∃ stored, Committing l s w stored := by
  obtain ⟨now, c, -, hc, hwrite, hguards⟩ := of_commit? hw
  obtain ⟨t, ht, hsnap⟩ := h.snapshot hc hwrite
  obtain ⟨t', ht', hstatus, hupdated⟩ := (h.sound.guards_iff w.read).mp hguards
  rw [ht, Option.some_inj] at ht'
  subst ht'
  exact ⟨t, (h.fits hc).act?_of_write? hwrite, ht, hstatus, hupdated, hsnap⟩

end Inv

/-- The stored task changes as a task may change. -/
lemma Committing.follows {w : GuardedWrite} {stored : Task} (h : Committing l s w stored)
    (hclean : stored.Clean) : Task.Follows stored w.written.kept :=
  (Task.follows_of_write h.act h.snapshot.identity h.status
    fun hs => (h.snapshot.frozen hs).2).kept hclean

namespace Inv

/-- An action changes the stored tasks by its guarded batch or its new task. -/
lemma task?_step (h : Inv l used s) (a : Action) :
    (s.step l a).keyspace.Sound l ∧
      ∀ id, (s.step l a).keyspace.task? l id = match s.commit? l a with
        | some w => if id = w.read.id then some w.written.kept else s.keyspace.task? l id
        | none => match s.insert? a with
          | some t => if id = t.id then some t else s.keyspace.task? l id
          | none => s.keyspace.task? l id := by
  rw [keyspace_step]
  cases hstage : s.requesting a with
  | none =>
      have hw : s.commit? l a = none := by rw [commit?, hstage]; rfl
      have hi : s.insert? a = none := by rw [insert?, hstage]; rfl
      rw [hw, hi]
      exact ⟨h.sound, fun _ => rfl⟩
  | some stage =>
      obtain ⟨now, c, -, hc, rfl⟩ := of_requesting hstage
      have hfits := h.fits hc
      dsimp only
      cases hwrite : c.stage.write? with
      | some w =>
          have hi : s.insert? a = none := by
            rw [insert?, hstage, Option.bind_some, (Stage.eq_none_of_write? hwrite).1]
          have hcommit := commit?_of_write? (l := l) hstage hwrite
          rw [hfits.request_of_write? hwrite, hi, hcommit]
          dsimp only [Keyspace.answer]
          rw [Keyspace.commit_eq, GuardedWrite.guards_batch]
          split_ifs with hguards
          · obtain ⟨stored, hst⟩ := h.committing (hcommit.trans (if_pos hguards))
            have hid : w.written.id = w.read.id := (Transition.sameIdentity_act? hst.act).1
            have hsame := (Transition.sameIdentity_act? hst.act).trans hst.snapshot.identity
            dsimp only
            rw [← hid]
            exact h.sound.write (hid.symm ▸ hst.task?) hsame
              (GuardedWrite.hash_batch l s.keyspace hst.act)
          · exact ⟨h.sound, fun _ => rfl⟩
      | none =>
          have hw : s.commit? l a = none := commit?_of_write?_eq_none hstage hwrite
          have hinsert : s.insert? a = c.stage.insert? := by
            rw [insert?, hstage, Option.bind_some]
          rw [hw, hinsert]
          dsimp only
          cases hi : c.stage.insert? with
          | some t =>
              obtain ⟨-, -, hclean⟩ := hfits.of_insert? hi
              obtain ⟨-, hnone⟩ := h.fresh hc hi
              rw [Stage.request_of_insert? hi]
              have hput := @Keyspace.Sound.put l s.keyspace
                ((l.insertion t).ops.foldl Keyspace.apply s.keyspace) h.sound t fun id => by
                  rw [Keyspace.hash_insertion]
                  by_cases hid : id = t.id
                  · rw [if_pos hid, if_pos hid, hid, h.sound.hash_of_none hnone, Layout.record]
                  · rw [if_neg hid, if_neg hid]
              rw [hclean.kept_eq] at hput
              exact hput
          | none =>
              cases hq : c.stage.request l with
              | none => exact ⟨h.sound, fun _ => rfl⟩
              | some q =>
                  have hhash := Stage.hash_answer_of_quiet hq hwrite hi s.keyspace
                  exact ⟨h.sound.congr hhash, fun id => Keyspace.task?_congr (hhash id)⟩

/-- A guarded batch replaces its task by what it writes. -/
lemma task?_step_of_commit? (h : Inv l used s) {w : GuardedWrite} (hw : s.commit? l a = some w) :
    (s.step l a).keyspace.task? l w.read.id = some w.written.kept := by
  rw [(h.task?_step a).2, hw]
  exact if_pos rfl

/-- A guarded batch is applied as it is. -/
lemma keyspace_step_of_commit? (h : Inv l used s) {w : GuardedWrite}
    (hw : s.commit? l a = some w) :
    (s.step l a).keyspace = (w.batch l).ops.foldl Keyspace.apply s.keyspace := by
  obtain ⟨now, c, ha, hc, hwrite, hguards⟩ := of_commit? hw
  have hstage : s.requesting a = some c.stage := by
    rw [ha, requesting, hc]
    rfl
  rw [keyspace_step, hstage]
  dsimp only
  rw [(h.fits hc).request_of_write? hwrite]
  dsimp only [Keyspace.answer]
  rw [Keyspace.commit_eq, GuardedWrite.guards_batch, if_pos hguards]

/-- An action that applies no batch of a stored task leaves it alone. -/
lemma task?_step_of_not_commits (h : Inv l used s) {id : String} (hnot : ¬ s.Commits l a id)
    {t : Task} (ht : s.keyspace.task? l id = some t) :
    (s.step l a).keyspace.task? l id = some t := by
  rw [(h.task?_step a).2]
  cases hw : s.commit? l a with
  | some w =>
      have hne : id ≠ w.read.id := fun heq => hnot ⟨w, hw, heq.symm⟩
      dsimp only
      rw [if_neg hne, ht]
  | none =>
      dsimp only
      cases hi : s.insert? a with
      | none => exact ht
      | some u =>
          obtain ⟨now, c, -, hc, hinsert⟩ := of_insert? hi
          have hne : id ≠ u.id := by
            rintro rfl
            simp [(h.fresh hc hinsert).2] at ht
          dsimp only
          rw [if_neg hne, ht]

/-- A stored task stays stored and changes as a task may change. -/
lemma follows_step (h : Inv l used s) (a : Action) {id : String} {t : Task}
    (ht : s.keyspace.task? l id = some t) :
    ∃ t', (s.step l a).keyspace.task? l id = some t' ∧ Task.Follows t t' := by
  by_cases hcommits : s.Commits l a id
  · obtain ⟨w, hw, rfl⟩ := hcommits
    obtain ⟨stored, hst⟩ := h.committing hw
    rw [hst.task?, Option.some_inj] at ht
    subst ht
    exact ⟨_, h.task?_step_of_commit? hw, hst.follows (h.sound.clean hst.task?)⟩
  · exact ⟨t, h.task?_step_of_not_commits hcommits ht, Task.Follows.refl t⟩

/-- No task is stored under an id but by the client that is about to store it. -/
lemma task?_step_eq_none (h : Inv l used s) {id : String} (hnone : s.keyspace.task? l id = none)
    (hi : ∀ t, s.insert? a = some t → id ≠ t.id) : (s.step l a).keyspace.task? l id = none := by
  rw [(h.task?_step a).2]
  cases hw : s.commit? l a with
  | some w =>
      obtain ⟨stored, hst⟩ := h.committing hw
      dsimp only
      have hne : id ≠ w.read.id := fun heq => by simp [heq, hst.task?] at hnone
      rw [if_neg hne, hnone]
  | none =>
      dsimp only
      cases hinsert : s.insert? a with
      | some t =>
          dsimp only
          rw [if_neg (hi t hinsert), hnone]
      | none => exact hnone

/-- A client that reads a task writes nothing. -/
lemma task?_step_of_reading? (h : Inv l used s) {c : Client} {id : String}
    (hc : s.clients a.client = some c) (hid : c.stage.reading? = some id) (id' : String) :
    (s.step l a).keyspace.task? l id' = s.keyspace.task? l id' := by
  obtain ⟨hnowrite, hnoinsert, -⟩ := Stage.eq_none_of_reading? hid
  have hcommit : s.commit? l a = none := by
    rw [Option.eq_none_iff_forall_ne_some]
    intro w hw
    obtain ⟨now, c', -, hc', hwrite, -⟩ := of_commit? hw
    rw [hc, Option.some_inj] at hc'
    subst hc'
    simp [hnowrite] at hwrite
  have hinsert : s.insert? a = none := by
    rw [Option.eq_none_iff_forall_ne_some]
    intro t ht
    obtain ⟨now, c', -, hc', hstore⟩ := of_insert? ht
    rw [hc, Option.some_inj] at hc'
    subst hc'
    simp [hnoinsert] at hstore
  rw [(h.task?_step a).2, hcommit, hinsert]

/-! ### Every action keeps the invariant -/

/-- What a fresh stage stores is the task of a call that begins. -/
lemma id_of_insert?_start {id : String} {now : Timestamp} {call : Call} {t : Task}
    (h : (Stage.start id now call).insert? = some t) : t.id = id ∧ call.isEnqueue = true := by
  cases call with
  | enqueue type payload metadata =>
      rw [Stage.start] at h
      cases ht : Task.new id now type payload metadata with
      | error e =>
          rw [ht] at h
          simp [Stage.fail, Stage.insert?] at h
      | ok t' =>
          rw [ht] at h
          obtain rfl := Option.some.inj h
          exact ⟨(Task.of_new ht).1, rfl⟩
  | _ => simp [Stage.start, Stage.insert?] at h

lemma write?_start (id : String) (now : Timestamp) (call : Call) :
    (Stage.start id now call).write? = none := by
  cases call with
  | enqueue type payload metadata =>
      rw [Stage.start]
      cases Task.new id now type payload metadata <;> rfl
  | _ => rfl

/-- The client that acts stores a task only if it has just begun. -/
lemma insert?_client_step {c' : Client} {t : Task}
    (h : (s.step l a).clients a.client = some c') (ht : c'.stage.insert? = some t) :
    t.id ∈ a.created := by
  rcases client_step h with ⟨i, id, now, call, rfl, rfl⟩ | ⟨c, now, answer, -, rfl, -⟩
  · obtain ⟨hid, hcall⟩ := id_of_insert?_start ht
    simp [Action.created, hcall, hid]
  · simp [Stage.insert?_resume] at ht

lemma fits_step (h : Inv l used s) {i : Nat} {c' : Client}
    (hc' : (s.step l a).clients i = some c') : c'.stage.Fits c'.call := by
  by_cases hi : i = a.client
  · subst hi
    rcases client_step hc' with ⟨i, id, now, call, -, rfl⟩ | ⟨c, now, answer, hc, rfl, hanswer⟩
    · exact Stage.Fits.start id now call
    · refine (h.fits hc).resume fun id t hid ht => h.sound.id_eq ?_
      refine task?_of_loaded h.sound ?_ hid ht
      rcases hanswer with ⟨fault, -, heq⟩ | ⟨-, hq⟩
      · exact Or.inl ⟨fault, heq⟩
      · exact Or.inr hq
  · rw [clients_step_of_ne a hi] at hc'
    exact h.fits hc'

/-- A client that acts and then has a guarded write prepared has just read its task. -/
lemma task?_step_of_write? (h : Inv l used s) {c' : Client} {w : GuardedWrite}
    (hc' : (s.step l a).clients a.client = some c') (hw : c'.stage.write? = some w) :
    (s.step l a).keyspace.task? l w.read.id = some w.read := by
  rcases client_step hc' with ⟨i, id, now, call, -, rfl⟩ | ⟨c, now, answer, hc, rfl, hanswer⟩
  · simp [write?_start] at hw
  · obtain ⟨id, hid, hloaded⟩ := Stage.reading?_of_write?_resume hw
    have hread : s.keyspace.task? l id = some w.read := by
      refine task?_of_loaded h.sound ?_ hid hloaded
      rcases hanswer with ⟨fault, -, heq⟩ | ⟨-, hq⟩
      · exact Or.inl ⟨fault, heq⟩
      · exact Or.inr hq
    have hwid : w.read.id = id := h.sound.id_eq hread
    exact (h.task?_step_of_reading? hc hid w.read.id).trans (hwid ▸ hread)

/-- A task that a client has read stays stored. -/
lemma snapshot_step (h : Inv l used s) {i : Nat} {c' : Client} {w : GuardedWrite}
    (hc' : (s.step l a).clients i = some c') (hw : c'.stage.write? = some w) :
    ∃ t, (s.step l a).keyspace.task? l w.read.id = some t ∧ Snapshot w.read t := by
  by_cases hi : i = a.client
  · subst hi
    exact ⟨w.read, h.task?_step_of_write? hc' hw, ⟨rfl, rfl, rfl, rfl, rfl⟩, fun _ => ⟨rfl, rfl⟩⟩
  · rw [clients_step_of_ne a hi] at hc'
    obtain ⟨t, ht, hsnap⟩ := h.snapshot hc' hw
    obtain ⟨t', ht', hfollows⟩ := h.follows_step a ht
    refine ⟨t', ht', hsnap.identity.trans hfollows.identity.symm, fun hs => ?_⟩
    obtain ⟨hstatus, hresult⟩ := hsnap.frozen hs
    obtain ⟨hstatus', hresult'⟩ := hfollows.frozen (hstatus ▸ hs)
    exact ⟨hstatus'.trans hstatus, hresult'.trans hresult⟩

lemma known_step (h : Inv l used s) {id : String} {t : Task}
    (ht : (s.step l a).keyspace.task? l id = some t) : id ∈ used := by
  by_contra hid
  have hnone : s.keyspace.task? l id = none := by
    rw [Option.eq_none_iff_forall_ne_some]
    intro u hu
    exact hid (h.known hu)
  rw [h.task?_step_eq_none hnone fun u hu heq => ?_] at ht
  · simp at ht
  · obtain ⟨now, c, -, hc, hinsert⟩ := of_insert? hu
    exact hid (heq ▸ (h.fresh hc hinsert).1)

/-- An action that is given new ids keeps the invariant. -/
theorem step (h : Inv l used s) (a : Action) (hnew : ∀ id ∈ a.created, id ∉ used) :
    Inv l (used ++ a.created) (s.step l a) where
  sound := (h.task?_step a).1
  inStep := by
    rw [keyspace_step]
    split
    · exact h.inStep
    · split
      · exact h.inStep
      · exact h.inStep.answer _
  known ht := List.mem_append_left _ (h.known_step ht)
  fits := h.fits_step
  fresh {i c t} hc ht := by
    by_cases hi : i = a.client
    · subst hi
      have hid := insert?_client_step hc ht
      refine ⟨List.mem_append_right _ hid, ?_⟩
      rw [Option.eq_none_iff_forall_ne_some]
      intro u hu
      exact hnew t.id hid (h.known_step hu)
    · rw [clients_step_of_ne a hi] at hc
      obtain ⟨hused, hnone⟩ := h.fresh hc ht
      refine ⟨List.mem_append_left _ hused, h.task?_step_eq_none hnone fun u hu heq => ?_⟩
      obtain ⟨now, d, -, hd, hinsert⟩ := of_insert? hu
      exact hi (h.apart hc hd ht hinsert heq)
  apart {i j c d t u} hc hd ht hu heq := by
    by_cases hi : i = a.client <;> by_cases hj : j = a.client
    · rw [hi, hj]
    · subst hi
      rw [clients_step_of_ne a hj] at hd
      exact absurd (heq ▸ (h.fresh hd hu).1) (hnew t.id (insert?_client_step hc ht))
    · subst hj
      rw [clients_step_of_ne a hi] at hc
      exact absurd (heq ▸ (h.fresh hc ht).1) (hnew u.id (insert?_client_step hd hu))
    · rw [clients_step_of_ne a hi] at hc
      rw [clients_step_of_ne a hj] at hd
      exact h.apart hc hd ht hu heq
  snapshot := h.snapshot_step

end Inv

/-- The invariant holds after every run that gives each new task its own id. -/
theorem inv_run (l : Layout) {actions : List Action} (hids : (created actions).Nodup) :
    Inv l (created actions) (run l actions) := by
  induction actions using List.reverseRecOn with
  | nil => exact inv_empty l
  | append_singleton actions a ih =>
      rw [created_append_singleton, List.nodup_append] at hids
      obtain ⟨hids, -, hdisjoint⟩ := hids
      rw [run_append_singleton, created_append_singleton]
      exact (ih hids).step a fun id hid hmem => hdisjoint id hmem id hid rfl

end System

end LeaseQueue
