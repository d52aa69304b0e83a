/-
Which leases a sweep can find.

* `System.Drops`, `System.Escaped`: a sweep drops the id of a leased task from the leases; no batch
  of the task has been applied since;
* `leased_iff`: after every run a leased task stands among the leases, with its update time, unless
  it has escaped so;
* `claimedSince_of_drops`: a sweep drops the id of a leased task only if the task has been leased
  since the sweep read it.

The clean-up of a sweep has no guards: it acts on a task that was read one request before.
-/
import LeaseQueue.Proofs.Clients.History

namespace LeaseQueue

namespace Stage

variable {call : Call} {l : Layout} {now : Timestamp} {stage : Stage}

/-- A request that neither writes a task nor drops an id leaves the leases alone. -/
lemma inProgress_answer_of_quiet {q : Request} (hq : stage.request l = some q)
    (hw : stage.write? = none) (hf : stage.forget? = none) (ks : Keyspace) :
    (ks.answer q).2.scoredSet l.inProgressKey = ks.scoredSet l.inProgressKey := by
  have hne := l.pendingKey_ne_inProgressKey
  cases stage with
  | storing t =>
      obtain rfl := Option.some.inj hq
      exact Keyspace.inProgress_insertion l ks t
  | popping worker =>
      obtain rfl := Option.some.inj hq
      exact Keyspace.scoredSet_popMin_of_ne ks hne.symm
  | restoring id score error =>
      obtain rfl := Option.some.inj hq
      refine Keyspace.scoredSet_foldl ks fun op hop => ?_
      simp_all [Layout.restore, Batch.ofOps, WriteOp.scoredKey?]
  | forgetting => simp [forget?] at hf
  | leasing => simp [write?] at hw
  | finishing => simp [write?] at hw
  | refreshing => simp [write?] at hw
  | expiring => simp [write?] at hw
  | finished => simp [request] at hq
  | _ =>
      obtain rfl := Option.some.inj hq
      rfl

/-- A stage that drops an id asks for its removal. -/
lemma request_of_forget? {id : String} (h : stage.forget? = some id) :
    stage.request l = some (.commit (l.forget id)) := by
  cases stage with
  | forgetting sweep id' rest report =>
      obtain rfl := Option.some.inj h
      rfl
  | _ => simp [forget?] at h

/-- An id is dropped by a sweep. -/
lemma Fits.of_forget? (h : stage.Fits call) {id : String} (hid : stage.forget? = some id) :
    ∃ maxAge maxAttempts, call = .recover maxAge maxAttempts := by
  cases stage with
  | forgetting sweep id' rest report =>
      obtain ⟨maxAge, hcall⟩ := h
      exact ⟨maxAge, sweep.maxAttempts, hcall⟩
  | _ => simp [forget?] at hid

lemma forget?_start (id : String) (now : Timestamp) (call : Call) :
    (start id now call).forget? = none := by
  cases call with
  | enqueue type payload metadata =>
      rw [start]
      cases Task.new id now type payload metadata <;> rfl
  | _ => rfl

end Stage

namespace System

variable {l : Layout} {used : List String} {s : System} {a : Action} {id : String}
  {actions : List Action}

/-! ### Leases and their index -/

/-- An action drops the id of a leased task from the leases. -/
def Drops (l : Layout) (s : System) (a : Action) (id : String) : Prop :=
  s.forget? a = some id ∧ s.status? l id = some .inProgress

/-- The id of a leased task has been dropped from the leases, and no guarded batch of the task has
been applied since. -/
def Escaped (l : Layout) (actions : List Action) (id : String) : Prop :=
  Since (fun p b => (run l p).Drops l b id) (fun p b => (run l p).Commits l b id) actions

lemma escaped_append_singleton :
    Escaped l (actions ++ [a]) id ↔
      (run l actions).Drops l a id ∨ (Escaped l actions id ∧ ¬ (run l actions).Commits l a id) :=
  since_append_singleton

/-- An action that drops an id applies no guarded batch and stores no task. -/
lemma commit?_of_forget? (h : s.forget? a = some id) :
    s.commit? l a = none ∧ s.insert? a = none := by
  rw [forget?, Option.bind_eq_some_iff] at h
  obtain ⟨stage, hstage, hforget⟩ := h
  obtain ⟨hwrite, hinsert⟩ := Stage.eq_none_of_forget? hforget
  rw [commit?, insert?, hstage, Option.bind_some, Option.bind_some, hwrite, hinsert]
  exact ⟨rfl, rfl⟩

/-- A guarded batch scores its task among the leases, if no task without a lease is among them. -/
lemma Inv.inProgress_step_of_commit? (h : Inv l used s) {w : GuardedWrite}
    (hw : s.commit? l a = some w)
    (hnone : w.read.status ≠ .inProgress →
      (s.keyspace.scoredSet l.inProgressKey).score? w.read.id = none) (id : String) :
    ((s.step l a).keyspace.scoredSet l.inProgressKey).score? id
      = if id = w.read.id then w.written.leaseScore?
        else (s.keyspace.scoredSet l.inProgressKey).score? id := by
  obtain ⟨stored, hst⟩ := h.committing hw
  rw [h.keyspace_step_of_commit? hw, GuardedWrite.inProgress_batch l s.keyspace hst.act hnone,
    (Transition.sameIdentity_act? hst.act).1]

/-- Without a batch an action takes out the id it drops and leaves the other leases alone. -/
lemma Inv.inProgress_step_of_commit?_eq_none (h : Inv l used s) (hw : s.commit? l a = none)
    (id : String) :
    ((s.step l a).keyspace.scoredSet l.inProgressKey).score? id
      = if s.forget? a = some id then none
        else (s.keyspace.scoredSet l.inProgressKey).score? id := by
  rw [keyspace_step]
  cases hstage : s.requesting a with
  | none =>
      have hf : s.forget? a = none := by rw [forget?, hstage]; rfl
      rw [hf]
      rfl
  | some stage =>
      obtain ⟨now, c, -, hc, rfl⟩ := of_requesting hstage
      have hforget : s.forget? a = c.stage.forget? := by rw [forget?, hstage, Option.bind_some]
      rw [hforget]
      dsimp only
      cases hwrite : c.stage.write? with
      | some w =>
          -- the batch is refused
          have hguards : ¬ (l.guarded w.read).guards.all s.keyspace.holds = true := by
            intro hguards
            rw [commit?_of_write? hstage hwrite, if_pos hguards] at hw
            simp at hw
          rw [(h.fits hc).request_of_write? hwrite, (Stage.eq_none_of_write? hwrite).2]
          dsimp only [Keyspace.answer]
          rw [Keyspace.commit_eq, GuardedWrite.guards_batch, if_neg hguards]
          rfl
      | none =>
          cases hf : c.stage.forget? with
          | some id' =>
              have hremove : ((s.keyspace.answer (.commit (l.forget id'))).2.scoredSet
                  l.inProgressKey) = (s.keyspace.scoredSet l.inProgressKey).remove id' := by
                rw [Keyspace.answer, Layout.forget, Keyspace.commit_ofOps, List.foldl_cons,
                  List.foldl_nil, Keyspace.scoredSet_apply]
                exact if_pos rfl
              rw [Stage.request_of_forget? hf]
              dsimp only
              rw [hremove, ScoredSet.score?_remove]
              by_cases hid : id = id'
              · rw [if_pos hid, if_pos (by rw [hid])]
              · rw [if_neg hid, if_neg fun heq => hid (Option.some.inj heq).symm]
          | none =>
              cases hq : c.stage.request l with
              | none => rfl
              | some q =>
                  dsimp only
                  rw [Stage.inProgress_answer_of_quiet hq hwrite hf]
                  rfl

/-- What the stored task says of leases changes by a guarded batch only. -/
lemma Inv.leaseScore?_step_of_not_commits (h : Inv l used s) (hnot : ¬ s.Commits l a id) :
    ((s.step l a).keyspace.task? l id).bind Task.leaseScore?
      = (s.keyspace.task? l id).bind Task.leaseScore? := by
  cases ht : s.keyspace.task? l id with
  | some t => rw [h.task?_step_of_not_commits hnot ht]
  | none =>
      by_cases hi : ∃ t, s.insert? a = some t ∧ id = t.id
      · -- a new task waits
        obtain ⟨t, hi, rfl⟩ := hi
        obtain ⟨now, c, -, hc, hinsert⟩ := of_insert? hi
        obtain ⟨-, hpending, -⟩ := (h.fits hc).of_insert? hinsert
        have hw : s.commit? l a = none := by
          obtain ⟨stage, hstage, hstore⟩ := Option.bind_eq_some_iff.mp hi
          exact commit?_of_write?_eq_none hstage (Stage.write?_of_insert? hstore)
        rw [(h.task?_step a).2, hw, hi]
        dsimp only
        rw [if_pos rfl, Option.bind_some, Task.leaseScore?, hpending]
        rfl
      · rw [h.task?_step_eq_none ht fun t hinsert hid => hi ⟨t, hinsert, hid⟩]

/-! ### Escaped leases -/

/-- The score of an id among the leases is that of its task, or none if the lease has escaped. -/
def Scored (l : Layout) (actions : List Action) (id : String) : Prop :=
  (Escaped l actions id →
      ((run l actions).keyspace.scoredSet l.inProgressKey).score? id = none) ∧
    (¬ Escaped l actions id →
      ((run l actions).keyspace.scoredSet l.inProgressKey).score? id
        = ((run l actions).keyspace.task? l id).bind Task.leaseScore?)

lemma Scored.eq_none (h : Scored l actions id)
    (hnone : ((run l actions).keyspace.task? l id).bind Task.leaseScore? = none) :
    ((run l actions).keyspace.scoredSet l.inProgressKey).score? id = none := by
  by_cases hescaped : Escaped l actions id
  · exact h.1 hescaped
  · rw [h.2 hescaped, hnone]

/-- An action that neither applies a batch of a task nor drops it from the leases. -/
lemma Scored.of_quiet (hinv : Inv l used (run l actions)) (h : Scored l actions id)
    (hcommits : ¬ (run l actions).Commits l a id) (hdrops : ¬ (run l actions).Drops l a id)
    (hscore : (((run l actions).step l a).keyspace.scoredSet l.inProgressKey).score? id
      = ((run l actions).keyspace.scoredSet l.inProgressKey).score? id) :
    Scored l (actions ++ [a]) id := by
  have hescaped : Escaped l (actions ++ [a]) id ↔ Escaped l actions id := by
    rw [escaped_append_singleton]
    tauto
  rw [Scored, run_append_singleton, hescaped, hscore,
    hinv.leaseScore?_step_of_not_commits hcommits]
  exact h

/-- Every action keeps the scores. -/
lemma scored_step (hids : (created (actions ++ [a])).Nodup) (h : ∀ id, Scored l actions id)
    (id : String) : Scored l (actions ++ [a]) id := by
  have hinv : Inv l (created actions) (run l actions) := inv_run_of_eq_append hids rfl
  cases hw : (run l actions).commit? l a with
  | some w =>
      obtain ⟨stored, hst⟩ := hinv.committing hw
      have hdrops : ¬ (run l actions).Drops l a id := by
        rintro ⟨hf, -⟩
        rw [(commit?_of_forget? hf).1] at hw
        simp at hw
      have hscore := hinv.inProgress_step_of_commit? hw (fun hs => (h w.read.id).eq_none (by
        rw [hst.task?, Option.bind_some, Task.leaseScore?, hst.status, if_neg hs])) id
      by_cases hid : id = w.read.id
      · -- the batch scores its task anew
        subst hid
        have hcommits : (run l actions).Commits l a w.read.id := ⟨w, hw, rfl⟩
        rw [if_pos rfl] at hscore
        rw [Scored, run_append_singleton, escaped_append_singleton, hscore,
          hinv.task?_step_of_commit? hw]
        refine ⟨fun hescaped => ?_, fun _ => rfl⟩
        rcases hescaped with hescaped | ⟨-, hnot⟩
        · exact absurd hescaped hdrops
        · exact absurd hcommits hnot
      · have hcommits : ¬ (run l actions).Commits l a id := by
          rintro ⟨w', hw', hid'⟩
          rw [hw, Option.mem_some_iff] at hw'
          exact hid (hw' ▸ hid'.symm)
        rw [if_neg hid] at hscore
        exact (h id).of_quiet hinv hcommits hdrops hscore
  | none =>
      have hcommits : ¬ (run l actions).Commits l a id := by
        rintro ⟨w', hw', -⟩
        rw [hw] at hw'
        simp at hw'
      have hscore := hinv.inProgress_step_of_commit?_eq_none hw id
      by_cases hf : (run l actions).forget? a = some id
      · rw [if_pos hf] at hscore
        rw [Scored, run_append_singleton, hscore, hinv.leaseScore?_step_of_not_commits hcommits,
          escaped_append_singleton]
        refine ⟨fun _ => rfl, fun hnot => ?_⟩
        -- the dropped id is that of a task without a lease
        cases ht : (run l actions).keyspace.task? l id with
        | none => rfl
        | some t =>
            have hs : t.status ≠ .inProgress := by
              intro hs
              exact hnot (Or.inl ⟨hf, by rw [status?, ht, Option.map_some, hs]⟩)
            rw [Option.bind_some, Task.leaseScore?, if_neg hs]
      · rw [if_neg hf] at hscore
        exact (h id).of_quiet hinv hcommits (fun hdrops => hf hdrops.1) hscore

lemma scored_run (hids : (created actions).Nodup) (id : String) : Scored l actions id := by
  induction actions using List.reverseRecOn generalizing id with
  | nil =>
      refine ⟨fun h => absurd h (not_since_nil _ _), fun _ => ?_⟩
      rw [run_nil, empty, Keyspace.scoredSet_empty, Keyspace.task?_empty]
      rfl
  | append_singleton actions a ih =>
      have hids' := hids
      rw [created_append] at hids'
      exact scored_step hids (ih hids'.of_append_left) id

/-! ### How a lease escapes -/

/-- A sweep that is about to drop an id has read that its task holds no lease: it still holds none,
or has been leased since. -/
def Vacated (l : Layout) (actions : List Action) (i : Nat) (id : String) : Prop :=
  (run l actions).status? l id ≠ some .inProgress ∨ ClaimedSince l actions i id

/-- A task gets a lease that it did not have from an action that leases it. -/
lemma Inv.claims_of_status? (h : Inv l used s) (hbefore : s.status? l id ≠ some .inProgress)
    (hafter : (s.step l a).status? l id = some .inProgress) : s.Claims l a id := by
  have hcommits : s.Commits l a id := by
    by_contra hnot
    have hlease := h.leaseScore?_step_of_not_commits hnot
    rw [status?, Option.map_eq_some_iff] at hafter
    obtain ⟨t, ht, hs⟩ := hafter
    rw [ht, Option.bind_some, Task.leaseScore?, if_pos hs, eq_comm,
      Option.bind_eq_some_iff] at hlease
    obtain ⟨t', ht', hscore⟩ := hlease
    unfold Task.leaseScore? at hscore
    split_ifs at hscore with hs'
    exact hbefore (by rw [status?, ht', Option.map_some, hs'])
  obtain ⟨w, hw, rfl⟩ := hcommits
  obtain ⟨stored, hst⟩ := h.committing hw
  obtain ⟨hread, hwritten⟩ := h.status?_of_commit? hw
  rw [hread] at hbefore
  rw [hafter, Option.some_inj] at hwritten
  have hnext := (Transition.follows_act? hst.act).status
  rw [← hwritten] at hnext
  rw [claims_iff_of_commit? hw, Transition.isClaim_iff hst.act]
  rcases hnext with heq | hnext
  · exact absurd (congrArg some heq.symm) hbefore
  · exact ⟨hnext.eq_pending, hwritten.symm⟩

/-- Every client that is about to drop an id has seen it vacated. -/
lemma vacated_run (hids : (created actions).Nodup) {i : Nat} {c : Client}
    (hc : (run l actions).clients i = some c) (hid : c.stage.forget? = some id) :
    Vacated l actions i id := by
  induction actions using List.reverseRecOn generalizing c with
  | nil => simp [empty] at hc
  | append_singleton actions a ih =>
      have hinv : Inv l (created actions) (run l actions) := inv_run_of_eq_append hids rfl
      rw [created_append] at hids
      rw [run_append_singleton] at hc
      rw [Vacated, run_append_singleton, claimedSince_append_singleton]
      by_cases hi : i = a.client
      · subst hi
        rcases client_step hc with
          ⟨i, id', now, call, -, rfl⟩ | ⟨c', now, answer, hc', rfl, hanswer⟩
        · simp [Stage.forget?_start] at hid
        · -- the task has just been read, by an action that writes nothing
          obtain ⟨hreading, hloaded⟩ := Stage.reading?_of_forget?_resume hid
          have hsame := hinv.task?_step_of_reading? hc' hreading id
          refine Or.inl ?_
          rw [status?, hsame]
          rcases hanswer with ⟨fault, -, rfl⟩ | ⟨-, hq⟩
          · rcases hloaded with hloaded | ⟨t, hloaded, -⟩
            · exact absurd hloaded (loaded_fault _ fault _)
            · exact absurd hloaded (loaded_fault _ fault _)
          · have hstored := hinv.sound.loaded_readHash id
            rw [hq _ (Stage.request_of_reading? hreading)] at hloaded
            rcases hloaded with hloaded | ⟨t, hloaded, hs⟩
            · rw [Except.ok.inj (hstored.symm.trans hloaded)]
              simp
            · rw [Except.ok.inj (hstored.symm.trans hloaded)]
              simpa using hs
      · rw [clients_step_of_ne a hi] at hc
        rcases ih hids.of_append_left hc hid with hbefore | hclaimed
        · by_cases hafter : ((run l actions).step l a).status? l id = some .inProgress
          · exact Or.inr ⟨Ne.symm hi, Or.inl (hinv.claims_of_status? hbefore hafter)⟩
          · exact Or.inl hafter
        · exact Or.inr ⟨Ne.symm hi, Or.inr hclaimed⟩

/-- The id of a leased task is dropped only by a sweep, and only if the task has been leased since
the sweep read it. -/
lemma claimedSince_of_drops (hids : (created actions).Nodup) (h : (run l actions).Drops l a id) :
    (run l actions).Sweeps a ∧ ClaimedSince l actions a.client id := by
  obtain ⟨hforget, hs⟩ := h
  rw [forget?, Option.bind_eq_some_iff] at hforget
  obtain ⟨stage, hstage, hid⟩ := hforget
  obtain ⟨now, c, -, hc, rfl⟩ := of_requesting hstage
  obtain ⟨maxAge, maxAttempts, hcall⟩ := ((inv_run l hids).fits hc).of_forget? hid
  refine ⟨⟨c, maxAge, maxAttempts, hc, hcall⟩, ?_⟩
  rcases vacated_run hids hc hid with hvacated | hclaimed
  · exact absurd hs hvacated
  · exact hclaimed

/-- After every run a leased task stands among the leases with its update time, and under every
later bound, unless its lease has escaped; and a lease escapes only from a sweep that dropped the id
after another client had leased the task that the sweep had read without a lease. -/
theorem leased_iff (l : Layout) (actions : List Action) (hids : (created actions).Nodup)
    {id : String} {t : Task} (ht : (run l actions).keyspace.task? l id = some t)
    (hs : t.status = .inProgress) :
    (((run l actions).keyspace.scoredSet l.inProgressKey).score? id = some t.updatedAt ↔
        ¬ Escaped l actions id) ∧
      (∀ bound, id ∈ ((run l actions).keyspace.scoredSet l.inProgressKey).below bound ↔
        t.updatedAt < bound ∧ ¬ Escaped l actions id) ∧
      ∀ p a q, actions = p ++ a :: q → (run l p).Drops l a id →
        (run l p).Sweeps a ∧ ClaimedSince l p a.client id := by
  have hlease : ((run l actions).keyspace.task? l id).bind Task.leaseScore? = some t.updatedAt := by
    rw [ht, Option.bind_some, Task.leaseScore?, if_pos hs]
  obtain ⟨hescaped, hkept⟩ := scored_run (l := l) hids id
  rw [hlease] at hkept
  refine ⟨⟨fun hscore h => ?_, hkept⟩, fun bound => ?_, fun p a q h => ?_⟩
  · rw [hescaped h] at hscore
    simp at hscore
  · rw [((inv_run l hids).inStep _).mem_below_iff]
    constructor
    · rintro ⟨x, hx, hlt⟩
      have hnot : ¬ Escaped l actions id := fun h => by simp [hescaped h] at hx
      rw [hkept hnot, Option.some_inj] at hx
      exact ⟨hx ▸ hlt, hnot⟩
    · rintro ⟨hlt, hnot⟩
      exact ⟨t.updatedAt, hkept hnot, hlt⟩
  · rw [h, created_append] at hids
    exact claimedSince_of_drops hids.of_append_left

/-- A run of two sweeps and a dequeue: the second sweep puts the task back into the queue, the first
one reads it there, the dequeue leases it, and the first sweep drops it from the leases. -/
def escapingRun : List Action :=
  [.begin 0 "a" 5 (.enqueue "mail" "hello" ∅), .advance 0 5, .begin 1 "" 6 (.dequeue "w"),
    .advance 1 6, .advance 1 6, .advance 1 6, .begin 2 "" 20 (.recover 5 3), .advance 2 20,
    .begin 3 "" 20 (.recover 5 3), .advance 3 20, .advance 3 20, .advance 3 20, .advance 2 20,
    .begin 4 "" 21 (.dequeue "v"), .advance 4 21, .advance 4 21, .advance 4 21, .advance 2 21]

theorem escaped_escapingRun :
    (created escapingRun).Nodup ∧ ∃ t,
      (run ⟨Layout.standardName⟩ escapingRun).keyspace.task? ⟨Layout.standardName⟩ "a" = some t ∧
      t.status = .inProgress ∧ t.worker = some "v" ∧
      Escaped ⟨Layout.standardName⟩ escapingRun "a" ∧
      ∀ bound, "a" ∉ ((run ⟨Layout.standardName⟩ escapingRun).keyspace.scoredSet
        (Layout.inProgressKey ⟨Layout.standardName⟩)).below bound := by
  have hids : (created escapingRun).Nodup := by decide
  have hscore : ((run ⟨Layout.standardName⟩ escapingRun).keyspace.scoredSet
      (Layout.inProgressKey ⟨Layout.standardName⟩)).score? "a" = none := by decide +kernel
  obtain ⟨t, ht, hs, hworker⟩ : ∃ t, (run ⟨Layout.standardName⟩ escapingRun).keyspace.task?
      ⟨Layout.standardName⟩ "a" = some t ∧ t.status = .inProgress ∧ t.worker = some "v" := by
    have hlease : ((run ⟨Layout.standardName⟩ escapingRun).keyspace.task?
        ⟨Layout.standardName⟩ "a").map (fun t => (t.status, t.worker))
          = some (.inProgress, some "v") := by decide +kernel
    obtain ⟨t, ht, hlease⟩ := Option.map_eq_some_iff.mp hlease
    exact ⟨t, ht, congrArg Prod.fst hlease, congrArg Prod.snd hlease⟩
  obtain ⟨hscored, hbelow, -⟩ := leased_iff ⟨Layout.standardName⟩ escapingRun hids ht hs
  have hescaped : Escaped ⟨Layout.standardName⟩ escapingRun "a" := by
    by_contra hnot
    rw [hscored.mpr hnot] at hscore
    simp at hscore
  exact ⟨hids, t, ht, hs, hworker, hescaped, fun bound hmem => ((hbelow bound).mp hmem).2 hescaped⟩

end System

end LeaseQueue
