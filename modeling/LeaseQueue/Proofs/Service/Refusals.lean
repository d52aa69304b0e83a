/-
New tasks whose insertion is refused.

* `Stage.Refuses`: a call tried to store a new task, and the batch was refused;
* `MemoryKeyspace.NeverRefuses`: reads and commits may break, and a guarded batch may be refused by
  its guards, but no batch is refused for no reason; then no insertion is (`not_refuses_trace`);
* `TaskStore.Refuses`, `TaskStore.NeverRefuses`: the same of a store of either kind;
* `TaskStore.Holds.stored_of_enqueue`: a new task that is returned and was not refused is stored.
-/
import LeaseQueue.Proofs.Service.Calls

namespace LeaseQueue

/-- The fates that are left are among those scheduled, and so is the next one. -/
lemma Schedule.next?_fates {α : Type} {s rest : Schedule α} {a : α}
    (h : s.next? = some (a, rest)) :
    a ∈ s.map Prod.snd ∧ ∀ e ∈ rest, e.2 ∈ s.map Prod.snd := by
  induction s with
  | nil => simp [next?] at h
  | cons e s ih =>
      obtain ⟨_ | n, b⟩ := e
      · obtain ⟨ha, hrest⟩ := ih h
        exact ⟨List.mem_cons_of_mem b ha, fun e he => List.mem_cons_of_mem b (hrest e he)⟩
      · obtain ⟨rfl, rfl⟩ := Prod.mk.inj (Option.some.inj h)
        refine ⟨List.mem_cons_self, fun e he => ?_⟩
        obtain rfl | he := List.mem_cons.mp he
        · exact List.mem_cons_self
        · exact List.mem_cons_of_mem b (List.mem_map_of_mem he)

/-! ### Requests -/

namespace MemoryKeyspace

variable {m : MemoryKeyspace}

/-- No batch is refused but by its guards. -/
def NeverRefuses (m : MemoryKeyspace) : Prop := ∀ e ∈ m.plan.commits, e.2 ≠ .refused

/-- The plan stays as it is, and a batch without guards is not refused. -/
lemma NeverRefuses.answer (h : m.NeverRefuses) (q : Request) :
    (Answers.answer m q).2.NeverRefuses ∧
      ∀ ops, q = .commit (.ofOps ops) → (Answers.answer m q).1 ≠ .ok (.committed false) := by
  have hguarded : ∀ m' : MemoryKeyspace, m'.NeverRefuses → ∀ batch,
      (m'.commitGuarded batch).2.NeverRefuses ∧
        ∀ ops, batch = .ofOps ops → (m'.commitGuarded batch).1 ≠ .ok (.committed false) := by
    refine fun m' h' batch => ⟨h', ?_⟩
    rintro ops rfl
    simp [commitGuarded, Keyspace.commit_ofOps]
  cases q with
  | readHash key =>
      refine ⟨?_, nofun⟩
      change (m.readHash key).2.NeverRefuses
      unfold readHash
      split <;> exact h
  | commit batch =>
      have hcommit : (m.commit batch).2.NeverRefuses ∧
          ∀ ops, batch = .ofOps ops → (m.commit batch).1 ≠ .ok (.committed false) := by
        unfold commit
        dsimp only
        cases hnext : m.plan.commits.next? with
        | none => exact hguarded ⟨m.keyspace, m.plan, _⟩ h batch
        | some next =>
            obtain ⟨fate, rest⟩ := next
            obtain ⟨hfate, hrest⟩ := Schedule.next?_fates hnext
            have hfates : ∀ f ∈ m.plan.commits.map Prod.snd, f ≠ .refused := by
              intro f hf
              obtain ⟨e, he, rfl⟩ := List.mem_map.mp hf
              exact h e he
            have hkeep : ∀ e ∈ rest, e.2 ≠ .refused := fun e he => hfates _ (hrest e he)
            cases fate with
            | guarded =>
                exact hguarded ⟨m.keyspace, { m.plan with commits := rest }, _⟩ hkeep batch
            | broken => exact ⟨hkeep, nofun⟩
            | refused => exact absurd rfl (hfates _ hfate)
      exact ⟨hcommit.1, fun ops hops => hcommit.2 ops (Request.commit.inj hops)⟩
  | popMin key => exact ⟨h, nofun⟩
  | below key bound => exact ⟨h, nofun⟩
  | members key => exact ⟨h, nofun⟩

end MemoryKeyspace

/-! ### Calls -/

namespace Stage

variable {l : Layout} {now : Timestamp} {m : MemoryKeyspace}

/-- The insertion of a new task was refused. -/
def Refuses (tr : List Event) : Prop := ∃ t, (storing t, .ok (.committed false)) ∈ tr

lemma neverRefuses_runFor (h : m.NeverRefuses) (fuel : Nat) (stage : Stage) :
    (runFor l now fuel stage m).2.NeverRefuses ∧ ¬ Refuses (transcript l now fuel stage m) := by
  induction fuel generalizing stage m with
  | zero =>
      refine ⟨h, ?_⟩
      rintro ⟨t, ht⟩
      cases ht
  | succ fuel ih =>
      rw [runFor, transcript]
      cases hq : stage.request l with
      | none =>
          refine ⟨h, ?_⟩
          rintro ⟨t, ht⟩
          cases ht
      | some q =>
          obtain ⟨hkeep, hstored⟩ := h.answer q
          obtain ⟨hrest, hnone⟩ := ih hkeep (stage.resume l now (Answers.answer m q).1)
          refine ⟨hrest, ?_⟩
          rintro ⟨t, ht⟩
          obtain heq | ht := List.mem_cons.mp ht
          · obtain ⟨rfl, hanswer⟩ := Prod.mk.inj heq
            exact hstored _ (Option.some.inj hq).symm hanswer.symm
          · exact hnone ⟨t, ht⟩

end Stage

/-- A new task whose insertion is answered and not refused is stored. -/
lemma Keyspace.Holds.settles_storing {l : Layout} {lost : Set String} {ks : Keyspace} {L : Ledger}
    {id : String} (h : Holds l lost ks L) (hnew : L.get? id = none) (now : Timestamp)
    (type payload : String) (metadata : Metadata) :
    Stage.Settles l now (fun tr r ks' => ∀ t, r = .ok (.task t) → ¬ Stage.Refuses tr →
        ks'.task? l t.id = some t) 1
      (Stage.start id now (.enqueue type payload metadata)) ks := by
  rw [Stage.start]
  cases ht : Task.new id now type payload metadata with
  | error e => exact .finished fun t hr => by cases hr
  | ok t =>
      obtain ⟨hid, hpending, hclean⟩ := Task.of_new ht
      have hnone : ks.task? l t.id = none := by rw [h.task?_eq, hid, hnew]
      obtain ⟨-, htask⟩ := h.indexed.insert hnone hpending
      refine .commit rfl (ks.answer_commit (b := l.insertion t) rfl) (.finished ?_)
        (.finished fun t hr => by cases hr) (.finished ?_)
      · rintro _ ⟨⟩ -
        rw [htask, if_pos rfl, hclean.kept_eq]
      · rintro _ ⟨⟩ hrefused
        exact absurd ⟨t, List.mem_cons_self⟩ hrefused

/-! ### Stores of either kind -/

namespace TaskStore

variable {s : TaskStore} {L : Ledger} {id : String} {now : Timestamp}

/-- A call on the store tries to store a new task, and is refused. -/
def Refuses (s : TaskStore) (id : String) (now : Timestamp) (c : Call) : Prop :=
  match s with
  | table _ => False
  | keyspace s => Stage.Refuses (s.transcript id now c)

/-- No batch on the store is refused but by its guards. -/
def NeverRefuses : TaskStore → Prop
  | table _ => True
  | keyspace s => s.shared.NeverRefuses

lemma NeverRefuses.not_refuses (h : s.NeverRefuses) (id : String) (now : Timestamp) (c : Call) :
    ¬ s.Refuses id now c := by
  cases s with
  | table tb => exact not_false
  | keyspace s => exact (Stage.neverRefuses_runFor h _ _).2

lemma NeverRefuses.perform (h : s.NeverRefuses) (id : String) (now : Timestamp) (c : Call) :
    (Storage.perform s id now c).2.NeverRefuses := by
  cases s with
  | table tb =>
      rw [perform_table]
      trivial
  | keyspace s =>
      rw [perform_keyspace, s.perform_snd]
      exact (Stage.neverRefuses_runFor h _ _).1

/-- A new task that is returned and was not refused is stored. -/
theorem Holds.stored_of_enqueue (h : s.Holds L) (hnew : L.get? id = none)
    {type payload : String} {metadata : Metadata} {t : Task}
    (hanswer : (Storage.perform s id now (.enqueue type payload metadata)).1 = .ok (.task t))
    (hrefused : ¬ s.Refuses id now (.enqueue type payload metadata)) :
    (Storage.perform s id now (.enqueue type payload metadata)).2.task? t.id = some t := by
  cases s with
  | table tb =>
      obtain ⟨hresult, hstore⟩ :=
        Table.Holds.perform h id now (.enqueue type payload metadata) fun _ => hnew
      rw [perform_table] at hanswer ⊢
      rw [hresult] at hanswer
      rw [Holds.task?_eq (s := table _) hstore]
      simp only [Storage.perform, Storage.enqueue] at hanswer ⊢
      cases ht : Task.new id now type payload metadata with
      | error e => simp [ht, mapResult, Except.map] at hanswer
      | ok u =>
          rw [ht] at hanswer
          obtain ⟨⟨⟩⟩ := hanswer
          simp [mapResult, Ledger.get?_put]
  | keyspace s =>
      obtain ⟨lost, hkeeps⟩ := h
      have hsettles := hkeeps.keyspace.settles_storing hnew now type payload metadata
      obtain ⟨hstored, -⟩ := hsettles.run hkeeps.races (by rw [Stage.maxTries]; omega)
      rw [perform_keyspace] at hanswer ⊢
      refine hstored t ?_ hrefused
      -- the store takes the task out of the result of the run and wraps it again
      have hwrapped : ((((Stage.start id now (.enqueue type payload metadata)).run s.layout now
          s.shared).1.bind Outcome.asTask).map .task : Except StoreError Outcome)
            = .ok (.task t) := hanswer
      rcases hrun : ((Stage.start id now (.enqueue type payload metadata)).run s.layout now
        s.shared).1 with e | o
      all_goals rw [hrun] at hwrapped
      · cases hwrapped
      · cases o <;> cases hwrapped
        rfl

end TaskStore

end LeaseQueue
