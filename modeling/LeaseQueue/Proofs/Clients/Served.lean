/-
Every waiting task can be leased.

* `System.Holds`, `System.Idle`, `System.Dequeuing`: a dequeue in flight holds an entry, a client is
  in no call, a client is in a dequeue;
* `System.Alone`, `System.Awaited`, `Awaited.leases`: dequeues of one client alone come to every
  waiting task, since each step on the way takes one entry out of the queue;
* `waiting_run`: after every orderly run a waiting task is in the queue or held by one dequeue in
  flight, and when none is in flight it can be leased.
-/
import LeaseQueue.Proofs.Clients.Waiting

namespace LeaseQueue

namespace Stage

variable {stage : Stage} {call : Call}

/-- Only a dequeue that is not over holds an entry. -/
lemma Fits.of_held? (h : stage.Fits call) {e : String × Int64} (he : stage.held? = some e) :
    (∃ worker, call = .dequeue worker) ∧ stage.isFinished = false := by
  cases stage with
  | claiming worker id score tries => exact ⟨⟨worker, h⟩, rfl⟩
  | leasing worker id score tries read claimed => exact ⟨⟨worker, h.1⟩, rfl⟩
  | restoring id score error => exact ⟨h, rfl⟩
  | _ => simp [held?] at he

end Stage

namespace System

variable {l : Layout} {s : System} {i : Nat} {worker id : String} {now : Timestamp}
  {actions : List Action}

/-- A dequeue in flight holds an entry: it has popped the entry, and has neither leased its task,
passed it over nor put it back yet. -/
def Holds (s : System) (i : Nat) (id : String) (score : Int64) : Prop :=
  ∃ worker stage, s.clients i = some ⟨.dequeue worker, stage⟩ ∧ stage.held? = some (id, score)

/-- A client is in no call. -/
def Idle (s : System) (i : Nat) : Prop := ∀ c ∈ s.clients i, c.stage.isFinished = true

/-- A client is in a dequeue. -/
def Dequeuing (s : System) (i : Nat) : Prop :=
  ∃ worker stage, s.clients i = some ⟨.dequeue worker, stage⟩ ∧ stage.isFinished = false

/-- A client begins to dequeue for a worker, or makes its next request. -/
def Dequeues (i : Nat) (worker : String) (now : Timestamp) (a : Action) : Prop :=
  a = .begin i "" now (.dequeue worker) ∨ a = .advance i now

lemma Inv.holds_iff {used : List String} (h : Inv l used s) {x : Int64} :
    s.Holds i id x ↔ s.held? i = some (id, x) := by
  constructor
  · rintro ⟨worker, stage, hc, hheld⟩
    rw [held?_of_clients hc, hheld]
  · intro hheld
    obtain ⟨⟨call, stage⟩, hc, hstage⟩ := Option.bind_eq_some_iff.mp hheld
    obtain ⟨⟨worker, rfl⟩, -⟩ := (h.fits hc).of_held? hstage
    exact ⟨worker, stage, hc, hstage⟩

/-- A lease of a task that is stored as it was read is written: the dequeue returns the task, and no
other task and no entry of another task is touched. -/
lemma Inv.step_leasing {used : List String} (hinv : Inv l used s) (now : Timestamp) {k : String}
    {x : Int64} {tries : Nat} {read claimed : Task}
    (hc : s.clients i = some ⟨.dequeue worker, .leasing worker k x tries read claimed⟩)
    (hread : s.keyspace.task? l k = some read) :
    s.Leases l (.advance i now) k ∧
      (s.step l (.advance i now)).clients i
        = some ⟨.dequeue worker, .finished (.ok (.found (some claimed)))⟩ ∧
      ((s.step l (.advance i now)).keyspace.scoredSet l.pendingKey).size
        ≤ (s.keyspace.scoredSet l.pendingKey).size ∧
      ∀ id st, id ≠ k → s.status? l id = some st →
        (s.step l (.advance i now)).status? l id = some st := by
  have hfits : Stage.Fits (.dequeue worker) (.leasing worker k x tries read claimed) := hinv.fits hc
  obtain ⟨-, rfl, -, hclaimed⟩ := hfits
  have hid : claimed.id = read.id := by rw [hclaimed]; rfl
  have hleased : claimed.status = .inProgress := by rw [hclaimed]; rfl
  have hguards : (l.transition read claimed).guards.all s.keyspace.holds = true :=
    (hinv.sound.guards_iff read).mpr ⟨read, hread, rfl, rfl⟩
  obtain ⟨hks, hclient⟩ := step_advance now hc rfl (s.keyspace.answer_commit hguards)
  refine ⟨⟨worker, claimed, ⟨_, hc, by simp [Stage.request], hclient, by simp⟩, hid⟩, hclient,
    ?_, fun id st hne hst => ?_⟩
  · rw [hks, GuardedWrite.transition_ops, Keyspace.pending_transitionOps, hleased,
      if_neg (by simp)]
    exact ScoredSet.size_remove_le _ _
  · obtain ⟨t, ht, rfl⟩ := Option.map_eq_some_iff.mp hst
    have hnot : ¬ s.Commits l (.advance i now) id := by
      rintro ⟨w, hw, hwid⟩
      obtain ⟨now', c, -, hc', hwrite, -⟩ := of_commit? hw
      rw [Action.client, hc, Option.some_inj] at hc'
      subst hc'
      obtain rfl := Option.some.inj hwrite
      exact hne hwid.symm
    rw [status?, hinv.task?_step_of_not_commits hnot ht, Option.map_some]

lemma status?_eq_iff {st : Status} :
    s.status? l id = some st ↔ ∃ x, s.standing? l id = some (st, x) := by
  simp only [status?, standing?, Option.map_eq_some_iff, Prod.mk.injEq]
  constructor
  · rintro ⟨t, ht, rfl⟩
    exact ⟨t.createdAt, t, ht, rfl, rfl⟩
  · rintro ⟨x, t, ht, rfl, -⟩
    exact ⟨t, ht, rfl⟩

/-! ### Dequeues of one client alone -/

/-- A client that dequeues alone leads from one system to another. -/
inductive Alone (l : Layout) (i : Nat) (worker : String) (now : Timestamp) :
    System → List Action → System → Prop where
  | refl (s : System) : Alone l i worker now s [] s
  | advance {s s' : System} {q : List Action}
    (h : Alone l i worker now (s.step l (.advance i now)) q s') :
    Alone l i worker now s (.advance i now :: q) s'
  | begin {s s' : System} {q : List Action} (hidle : s.Idle i)
    (h : Alone l i worker now (s.step l (.begin i "" now (.dequeue worker))) q s') :
    Alone l i worker now s (.begin i "" now (.dequeue worker) :: q) s'

namespace Alone

variable {s' s'' : System} {q q' : List Action}

lemma trans (h : Alone l i worker now s q s') (h' : Alone l i worker now s' q' s'') :
    Alone l i worker now s (q ++ q') s'' := by
  induction h with
  | refl s => exact h'
  | advance h ih => exact .advance (ih h')
  | «begin» hidle h ih => exact .begin hidle (ih h')

lemma dequeues (h : Alone l i worker now s q s') : ∀ b ∈ q, Dequeues i worker now b := by
  induction h with
  | refl s => simp
  | advance h ih => exact List.forall_mem_cons.mpr ⟨Or.inr rfl, ih⟩
  | «begin» hidle h ih => exact List.forall_mem_cons.mpr ⟨Or.inl rfl, ih⟩

/-- After an orderly run the way is orderly too. -/
lemma orderly (h : Alone l i worker now s q s') (horderly : Orderly l actions)
    (hs : run l actions = s) : Orderly l (actions ++ q) ∧ run l (actions ++ q) = s' := by
  induction h generalizing actions with
  | refl s => simpa [horderly] using hs
  | advance h ih =>
      rw [List.append_cons]
      exact ih (orderly_append_singleton.mpr ⟨horderly, trivial⟩) (by rw [run_append_singleton, hs])
  | «begin» hidle h ih =>
      rw [List.append_cons]
      exact ih (orderly_append_singleton.mpr ⟨horderly, hs.symm ▸ hidle⟩)
        (by rw [run_append_singleton, hs])

end Alone

/-- A task waits, and no client but one may hold an entry. -/
structure Awaited (l : Layout) (used : List String) (s : System) (i : Nat) (id : String) :
    Prop where
  inv : Inv l used s
  tracked : Tracked l s
  free : ∀ j, j ≠ i → s.held? j = none
  waiting : s.status? l id = some .pending

namespace Awaited

variable {used : List String}

/-- An action of the client that leaves the task waiting. -/
lemma step (h : Awaited l used s i id) {a : Action} (ha : a.client = i) (hids : a.created = [])
    (hpermits : s.Permits a) (hwaiting : (s.step l a).status? l id = some .pending) :
    Awaited l used (s.step l a) i id where
  inv := by
    have hinv := h.inv.step a (by simp [hids])
    rwa [hids, List.append_nil] at hinv
  tracked := h.tracked.step h.inv hpermits
  free j hj := by
    rw [held?_step_of_ne a (ha ▸ hj)]
    exact h.free j hj
  waiting := hwaiting

/-- A request without a write. -/
lemma advance (h : Awaited l used s i id) (now : Timestamp) {c : Client}
    (hc : s.clients i = some c) (hw : c.stage.write? = none) (hi : c.stage.insert? = none) :
    Awaited l used (s.step l (.advance i now)) i id := by
  obtain ⟨x, hwaiting⟩ := status?_eq_iff.mp h.waiting
  refine h.step rfl rfl trivial (status?_eq_iff.mpr ⟨x, ?_⟩)
  rw [h.inv.standing?_advance now hc hw hi, hwaiting]

/-- The first entry of the queue is popped; that of the task that waits is in the queue. -/
lemma step_popping (h : Awaited l used s i id) (now : Timestamp)
    (hc : s.clients i = some ⟨.dequeue worker, .popping worker⟩) :
    ∃ k x, (s.step l (.advance i now)).clients i
        = some ⟨.dequeue worker, .claiming worker k x Stage.maxTries⟩ ∧
      ((s.step l (.advance i now)).keyspace.scoredSet l.pendingKey).size + 1
        = (s.keyspace.scoredSet l.pendingKey).size := by
  obtain ⟨x, hwaiting⟩ := status?_eq_iff.mp h.waiting
  obtain ⟨p, hp⟩ := h.tracked.waiting hwaiting
  have hqueued : s.queued? l id = some x := by
    cases p with
    | none => exact hp
    | some j =>
        by_cases hj : j = i
        · rw [At, hj, held?_of_clients hc] at hp
          simp [Stage.held?] at hp
        · simp [At, h.free j hj] at hp
  rcases s.keyspace.popMin_cases l.pendingKey with
    ⟨hnone, -⟩ | ⟨⟨k, y⟩, rest, hpop, hentry, hrest⟩
  · rw [queued?, (ScoredSet.popMin_eq_none_iff (h.inv.inStep _)).mp hnone] at hqueued
    simp at hqueued
  · obtain ⟨hks, hclient⟩ := step_advance now hc rfl
      (show s.keyspace.answer (.popMin l.pendingKey)
        = (.popped (some (k, y)), (s.keyspace.popMin l.pendingKey).2) by
        rw [Keyspace.answer, ← hentry])
    refine ⟨k, y, hclient, ?_⟩
    rw [hks, hrest, ScoredSet.size_popMin hpop]

/-- A popped task that waits is about to be leased, and the entry of any other is passed over. -/
lemma step_claiming (h : Awaited l used s i id) (now : Timestamp) {k : String} {x : Int64}
    {tries : Nat} (hc : s.clients i = some ⟨.dequeue worker, .claiming worker k x tries⟩) :
    (s.step l (.advance i now)).keyspace = s.keyspace ∧
      ((∃ t, s.keyspace.task? l k = some t ∧ (s.step l (.advance i now)).clients i
          = some ⟨.dequeue worker, .leasing worker k x (tries - 1) t (t.claim worker now)⟩) ∨
        (s.step l (.advance i now)).clients i = some ⟨.dequeue worker, .popping worker⟩) := by
  obtain ⟨hks, hclient⟩ := step_advance now hc rfl (show s.keyspace.answer
    (.readHash (l.taskKey k)) = (.fields (s.keyspace.hash (l.taskKey k)), s.keyspace) from rfl)
  refine ⟨hks, ?_⟩
  rw [Stage.resume, h.inv.sound.loaded_readHash] at hclient
  cases ht : s.keyspace.task? l k with
  | none =>
      rw [ht] at hclient
      exact Or.inr hclient
  | some t =>
      rw [ht] at hclient
      dsimp only [Stage.claimRead] at hclient
      split_ifs at hclient
      · exact Or.inl ⟨t, rfl, hclient⟩
      · exact Or.inr hclient

/-- A client that is in no call begins to dequeue. -/
lemma step_begin (h : Awaited l used s i id) (worker : String) (now : Timestamp)
    (hidle : s.Idle i) :
    Awaited l used (s.step l (.begin i "" now (.dequeue worker))) i id ∧
      (s.step l (.begin i "" now (.dequeue worker))).clients i
        = some ⟨.dequeue worker, .popping worker⟩ :=
  ⟨h.step rfl rfl hidle h.waiting, Function.update_self _ _ _⟩

/-- One entry of the queue is dealt with: the task that waits is leased, or the client is about to
pop the next entry. -/
lemma serve (h : Awaited l used s i id) (now : Timestamp)
    (hc : s.clients i = some ⟨.dequeue worker, .popping worker⟩) :
    ∃ q s', Alone l i worker now s q s' ∧ (s'.Leases l (.advance i now) id ∨
      Awaited l used s' i id ∧ s'.clients i = some ⟨.dequeue worker, .popping worker⟩ ∧
        (s'.keyspace.scoredSet l.pendingKey).size + 1
          ≤ (s.keyspace.scoredSet l.pendingKey).size) := by
  obtain ⟨k, x, hc₁, hsize₁⟩ := h.step_popping now hc
  have h₁ := h.advance now hc rfl rfl
  obtain ⟨hks₂, hcase⟩ := h₁.step_claiming now hc₁
  have h₂ := h₁.advance now hc₁ rfl rfl
  rcases hcase with ⟨t, ht, hc₂⟩ | hc₂
  · rw [← hks₂] at ht hsize₁
    obtain ⟨hleases, hc₃, hsize₃, hothers⟩ := h₂.inv.step_leasing now hc₂ ht
    by_cases hk : k = id
    · subst hk
      exact ⟨_, _, .advance (.advance (.refl _)), Or.inl hleases⟩
    · have h₃ := h₂.step (a := .advance i now) rfl rfl trivial
        (hothers id .pending (Ne.symm hk) h₂.waiting)
      have hidle : Idle (s := ((s.step l (.advance i now)).step l (.advance i now)).step l
          (.advance i now)) i := fun c hc => by
        rw [hc₃, Option.mem_some_iff] at hc
        exact hc ▸ rfl
      obtain ⟨h₄, hc₄⟩ := h₃.step_begin worker now hidle
      refine ⟨_, _, .advance (.advance (.advance (.begin hidle (.refl _)))), Or.inr ⟨h₄, hc₄, ?_⟩⟩
      exact (Nat.succ_le_succ hsize₃).trans hsize₁.le
  · refine ⟨_, _, .advance (.advance (.refl _)), Or.inr ⟨h₂, hc₂, ?_⟩⟩
    rw [hks₂]
    exact hsize₁.le

/-- Dequeues of one client alone come to the task that waits. -/
theorem leases (h : Awaited l used s i id) (now : Timestamp)
    (hc : s.clients i = some ⟨.dequeue worker, .popping worker⟩) :
    ∃ q s', Alone l i worker now s q s' ∧ s'.Leases l (.advance i now) id := by
  induction hn : (s.keyspace.scoredSet l.pendingKey).size using Nat.strong_induction_on
    generalizing s with
  | _ n ih =>
      obtain ⟨q, s', halone, hleases | ⟨h', hc', hsize⟩⟩ := h.serve now hc
      · exact ⟨q, s', halone, hleases⟩
      · obtain ⟨q', s'', halone', hleases⟩ := ih _ (by omega) h' hc' rfl
        exact ⟨q ++ q', s'', halone.trans halone', hleases⟩

end Awaited

/-! ### Waiting tasks -/

/-- After every orderly run a task that waits is in the queue with its creation time, or is held by
exactly one dequeue in flight. So while no dequeue is in flight it can be leased: further dequeues
of any idle client alone return it, whatever the worker and the clock. -/
theorem waiting_run (l : Layout) (actions : List Action) (hids : (created actions).Nodup)
    (horderly : Orderly l actions) {t : Task}
    (ht : (run l actions).keyspace.task? l id = some t) (hs : t.status = .pending) :
    ((run l actions).queued? l id = some t.createdAt ∧
          (∀ i x, ¬ (run l actions).Holds i id x) ∨
        (run l actions).queued? l id = none ∧
          (∃! i, (run l actions).Holds i id t.createdAt) ∧
          ∀ i x, (run l actions).Holds i id x → x = t.createdAt) ∧
      ((∀ i, ¬ (run l actions).Dequeuing i) → ∀ i worker now, (run l actions).Idle i →
        ∃ q, (∀ b ∈ q, Dequeues i worker now b) ∧ Orderly l (actions ++ q) ∧
          (run l (actions ++ q)).Leases l (.advance i now) id) := by
  have hinv : Inv l (created actions) (run l actions) := inv_run l hids
  have htracked := tracked_run hids horderly
  have hstanding : (run l actions).standing? l id = some (.pending, t.createdAt) := by
    rw [standing?, ht, Option.map_some, hs]
  have hscore : ∀ {p x}, (run l actions).At l p id x → x = t.createdAt := by
    intro p x hp
    obtain ⟨st, hst, -⟩ := htracked.entry hp
    rw [hstanding, Option.some_inj, Prod.mk.injEq] at hst
    exact hst.2.symm
  refine ⟨?_, fun hnone i worker now hidle => ?_⟩
  · obtain ⟨p, hp⟩ := htracked.waiting hstanding
    cases p with
    | none =>
        refine Or.inl ⟨hp, fun i x hholds => ?_⟩
        exact absurd (htracked.unique hp (q := some i) (hinv.holds_iff.mp hholds)) (by simp)
    | some i =>
        refine Or.inr ⟨?_, ⟨i, hinv.holds_iff.mpr hp, fun j hj => ?_⟩, fun j x hj => ?_⟩
        · rw [Option.eq_none_iff_forall_ne_some]
          intro x hx
          exact absurd (htracked.unique (p := none) hx hp) (by simp)
        · exact Option.some.inj (htracked.unique (p := some j) (hinv.holds_iff.mp hj) hp)
        · exact hscore (p := some j) (hinv.holds_iff.mp hj)
  · have hfree : ∀ j, (run l actions).held? j = none := by
      intro j
      by_contra hheld
      obtain ⟨⟨k, x⟩, hheld⟩ := Option.ne_none_iff_exists'.mp hheld
      obtain ⟨worker', stage, hc, hstage⟩ := hinv.holds_iff.mpr hheld
      exact hnone j ⟨worker', stage, hc, ((hinv.fits hc).of_held? hstage).2⟩
    have hawaited : Awaited l (created actions) (run l actions) i id :=
      ⟨hinv, htracked, fun j _ => hfree j, status?_eq_iff.mpr ⟨_, hstanding⟩⟩
    obtain ⟨hbegun, hclient⟩ := hawaited.step_begin worker now hidle
    obtain ⟨q, s', halone, hleases⟩ := hbegun.leases now hclient
    have hway : Alone l i worker now (run l actions) _ s' := .begin hidle halone
    obtain ⟨horderly', hrun⟩ := hway.orderly horderly rfl
    exact ⟨_, hway.dequeues, horderly', by rwa [hrun]⟩

/-- A client that has never acted is in no call. -/
lemma clients_run_eq_none {actions : List Action} (h : ∀ a ∈ actions, a.client ≠ i) :
    (run l actions).clients i = none := by
  induction actions using List.reverseRecOn with
  | nil => rfl
  | append_singleton actions a ih =>
      rw [run_append_singleton, clients_step_of_ne a (h a (by simp)).symm]
      exact ih fun b hb => h b (List.mem_append_left _ hb)

/-- The read of a popped task fails; while its dequeue puts it back, another one leases the next
task. -/
def outageRun : List Action :=
  [.begin 0 "a" 5 (.enqueue "mail" "hello" ∅), .advance 0 5,
    .begin 0 "b" 6 (.enqueue "mail" "" ∅), .advance 0 6, .begin 1 "" 7 (.dequeue "w"), .advance 1 7,
    .fault 1 7 (.broken (.io "connection reset")), .begin 2 "" 8 (.dequeue "v"), .advance 2 8,
    .advance 2 8, .advance 2 8, .advance 1 8]

theorem waiting_outageRun :
    (created outageRun).Nodup ∧ Orderly ⟨"queue"⟩ outageRun ∧
      (run ⟨"queue"⟩ outageRun).status? ⟨"queue"⟩ "b" = some .inProgress ∧
      ∃ t, (run ⟨"queue"⟩ outageRun).keyspace.task? ⟨"queue"⟩ "a" = some t ∧ t.status = .pending ∧
        (run ⟨"queue"⟩ outageRun).queued? ⟨"queue"⟩ "a" = some t.createdAt ∧
        ∃ q, (∀ b ∈ q, Dequeues 2 "v" 9 b) ∧
          (run ⟨"queue"⟩ (outageRun ++ q)).Leases ⟨"queue"⟩ (.advance 2 9) "a" := by
  have hids : (created outageRun).Nodup := by decide
  have horderly : Orderly ⟨"queue"⟩ outageRun := by decide +kernel
  obtain ⟨t, ht, hs⟩ : ∃ t, (run ⟨"queue"⟩ outageRun).keyspace.task? ⟨"queue"⟩ "a" = some t ∧
      t.status = .pending := by
    have hstatus : (run ⟨"queue"⟩ outageRun).status? ⟨"queue"⟩ "a" = some .pending := by
      decide +kernel
    exact Option.map_eq_some_iff.mp hstatus
  obtain ⟨hplace, hleases⟩ := waiting_run ⟨"queue"⟩ outageRun hids horderly ht hs
  have hover : ∀ i < 3, ((run ⟨"queue"⟩ outageRun).clients i).all (fun c => c.stage.isFinished)
      = true := by decide +kernel
  have hidle : ∀ i, (run ⟨"queue"⟩ outageRun).Idle i := by
    intro i c hc
    by_cases hi : i < 3
    · have hall := hover i hi
      rwa [Option.mem_def.mp hc, Option.all_some] at hall
    · rw [clients_run_eq_none fun a ha heq => hi ?_] at hc
      · simp at hc
      · have hsmall : ∀ a ∈ outageRun, a.client < 3 := by decide
        exact heq ▸ hsmall a ha
  have hqueued : (run ⟨"queue"⟩ outageRun).queued? ⟨"queue"⟩ "a" ≠ none := by decide +kernel
  refine ⟨hids, horderly, by decide +kernel, t, ht, hs, ?_, ?_⟩
  · rcases hplace with ⟨hsome, -⟩ | ⟨hnone, -⟩
    · exact hsome
    · exact absurd hnone hqueued
  · have hnone : ∀ i, ¬ (run ⟨"queue"⟩ outageRun).Dequeuing i := by
      rintro i ⟨worker, stage, hc, hopen⟩
      have hfinished : stage.isFinished = true := hidle i _ hc
      simp [hfinished] at hopen
    obtain ⟨q, hq, -, hlease⟩ := hleases hnone 2 "v" 9 (hidle 2)
    exact ⟨q, hq, hlease⟩

end System

end LeaseQueue
