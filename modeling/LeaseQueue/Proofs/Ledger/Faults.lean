/-
The keyspace keeps the ledger whatever fails.

* `Stage.Strands`: a call failed, and an id that it had popped did not get back into the queue;
* `Keyspace.Leaves`, `Keyspace.Unqueues`: what a call leaves of a keyspace: a ledger that may be, or
  all as it was but one id out of the queue;
* `Holds.settles_enqueue` to `Holds.settles_scanning`: every call is over after a number of requests
  bounded by the entries it meets, and leaves that;
* `KeyspaceStore.perform_of_settles`: a call on the task store gives what its stages settle with;
* `KeyspaceStore.Keeps`, `KeyspaceStore.Keeps.perform_leaves`: a call on the task store leaves the
  same, and so a ledger that may be, and only stranded ids are lost (`KeyspaceStore.Keeps.perform`).
-/
import LeaseQueue.Proofs.Keyspace.Faults
import LeaseQueue.Proofs.Ledger.Keyspace

namespace LeaseQueue

/-! ### Calls on the keyspace with faults -/

namespace Stage

/-- A call failed, and an id that it had popped did not get back into the queue. -/
structure Strands (tr : List Event) (r : Except StoreError Outcome) (id : String) : Prop where
  failed : ∃ e, r = .error e
  popped : ∃ worker x, (popping worker, .ok (.popped (some (id, x)))) ∈ tr
  unrestored : ∃ x e a, (restoring id x e, a) ∈ tr ∧ a ≠ .ok (.committed true)

/-- Every request of a call was answered, and no batch was refused. -/
def Undisturbed (tr : List Event) : Prop :=
  ∀ ev ∈ tr, ∃ reply, ev.2 = .ok reply ∧ reply ≠ .committed false

end Stage

namespace Keyspace

/-- A call left the tasks of a ledger that may be, as hashes keep them; one that failed left all as
it was. -/
structure Leaves (l : Layout) (lost : Set String) (L : Ledger) (id : String) (now : Timestamp)
    (c : Call) (before : Keyspace) (r : Except StoreError Outcome) (ks : Keyspace) : Prop where
  may : ∃ L', Holds l lost ks L'.kept ∧ L.May id now c r L'
  unchanged : ∀ e, r = .error e → ks = before

/-- The id of a waiting task is taken out of the queue, and nothing else is changed. -/
structure Unqueues (l : Layout) (id : String) (before ks : Keyspace) : Prop where
  waiting : ∃ t, ks.task? l id = some t ∧ t.status = .pending ∧
    (before.scoredSet l.pendingKey).score? id = some t.createdAt
  eq : ks = before.apply (.scoredRemove l.pendingKey id)

namespace Holds

variable {l : Layout} {lost : Set String} {ks : Keyspace} {L : Ledger} {now : Timestamp}
  {newId : String}

lemma leaves_error (h : Holds l lost ks L) (c : Call) (e : StoreError) :
    Leaves l lost L newId now c ks (.error e) ks := ⟨⟨L, h.kept, .failed c e⟩, fun _ _ => rfl⟩

/-- A call that returns something leaves a ledger that may be. -/
lemma leaves_ok {ks' : Keyspace} {L' : Ledger} (h : Holds l lost ks' L') {c : Call} {o : Outcome}
    (hmay : L.May newId now c (.ok o) L') : Leaves l lost L newId now c ks (.ok o) ks' :=
  ⟨⟨L', h.kept, hmay⟩, nofun⟩

lemma settles_enqueue (h : Holds l lost ks L) (hnew : L.get? newId = none)
    (type payload : String) (metadata : Metadata) :
    Stage.Settles l now
      (fun _ => Leaves l lost L newId now (.enqueue type payload metadata) ks) 1
      (Stage.start newId now (.enqueue type payload metadata)) ks := by
  rw [Stage.start]
  cases ht : Task.new newId now type payload metadata with
  | error e => exact .finished (h.leaves_error _ _)
  | ok t =>
      obtain ⟨hid, hpending, hclean⟩ := Task.of_new ht
      have hnone : ks.task? l t.id = none := by rw [h.task?_eq, hid, hnew]
      obtain ⟨hindexed, htask⟩ := h.indexed.insert hnone hpending
      exact .commit rfl rfl (.finished ((h.put hindexed htask hclean).leaves_ok (.stored ht)))
        (.finished (h.leaves_error _ _)) (.finished (h.leaves_ok (.unstored ht)))

lemma settles_fetching (h : Holds l lost ks L) (id : String) {now' : Timestamp} :
    Stage.Settles l now' (fun _ => Leaves l lost L newId now (.get id) ks) 1 (.fetching id) ks := by
  refine .read rfl ?_ (.finished (h.leaves_error _ _))
  rw [Stage.resume, h.indexed.sound.loaded_readHash, h.task?_eq]
  exact .finished (h.leaves_ok (.fetched id))

/-- Every try to finish a task takes one read and one write. -/
lemma settles_acking (h : Holds l lost ks L) (id : String) (success : Bool)
    (result : Option String) (tries : Nat) :
    Stage.Settles l now (fun _ => Leaves l lost L newId now (.ack id success result) ks) (2 * tries)
      (if tries = 0 then Stage.fail (.contention id) else .acking id success result tries) ks := by
  induction tries with
  | zero => exact .finished (h.leaves_error _ _)
  | succ tries ih =>
      rw [if_neg tries.succ_ne_zero]
      refine .read rfl ?_ (.finished (h.leaves_error _ _))
      rw [Stage.resume, h.indexed.sound.loaded_readHash, h.task?_eq]
      cases ht : L.get? id with
      | none => exact .finished (h.leaves_error _ _)
      | some t =>
          dsimp only [Stage.ackRead]
          cases hfinish : t.finish success result now with
          | error e => exact .finished (h.leaves_error _ _)
          | ok t' =>
              obtain ⟨ks', hanswer, hks'⟩ := h.transition (Ledger.id_of_get? ht ▸ ht)
                (Task.sameIdentity_finish hfinish) (Task.clean_finish hfinish)
              have hdone := hks'.mono Set.sdiff_subset
              exact .commit rfl hanswer (.finished (hdone.leaves_ok (.finished ht hfinish)))
                (.finished (h.leaves_error _ _)) ih

/-- Every try to refresh a task takes one read and one write. -/
lemma settles_beating (h : Holds l lost ks L) (id : String) (tries : Nat) :
    Stage.Settles l now (fun _ => Leaves l lost L newId now (.heartbeat id) ks) (2 * tries)
      (if tries = 0 then Stage.fail (.contention id) else .beating id tries) ks := by
  induction tries with
  | zero => exact .finished (h.leaves_error _ _)
  | succ tries ih =>
      rw [if_neg tries.succ_ne_zero]
      refine .read rfl ?_ (.finished (h.leaves_error _ _))
      rw [Stage.resume, h.indexed.sound.loaded_readHash, h.task?_eq]
      cases ht : L.get? id with
      | none => exact .finished (h.leaves_error _ _)
      | some t =>
          obtain ⟨ks', hanswer, hks'⟩ := h.refresh ht now
          exact .commit rfl hanswer (.finished (hks'.leaves_ok (.refreshed ht)))
            (.finished (h.leaves_error _ _)) ih

/-! ### Leases with faults -/

/-- Putting a popped id back ends with its error; unless the id is queued again, nothing is changed
and the transcript says so. -/
lemma settles_restoring (h : Holds l lost ks L) {id : String} {t : Task} (ht : L.get? id = some t)
    (hs : t.status = .pending) (e : StoreError) :
    Stage.Settles l now (fun tr r ks' => r = .error e ∧
        (Holds l (lost \ {id}) ks' L ∧ ks' = ks.apply (.scoredAdd l.pendingKey id t.createdAt) ∨
          ks' = ks ∧
            ∃ a, (Stage.restoring id t.createdAt e, a) ∈ tr ∧ a ≠ .ok (.committed true))) 1
      (.restoring id t.createdAt e) ks := by
  obtain ⟨hindexed, htask⟩ := h.indexed.restore ((h.task?_eq id).trans ht) hs
  have hback : Holds l (lost \ {id}) _ L :=
    ⟨hindexed, fun id' => (htask id').trans (h.task?_eq id')⟩
  refine .commit rfl rfl (.finished ⟨rfl, .inl ⟨hback, rfl⟩⟩) (.finished ⟨rfl, .inr ⟨rfl, ?_⟩⟩)
    (.finished ⟨rfl, .inr ⟨rfl, ?_⟩⟩)
  · exact ⟨_, List.mem_cons_self, by simp⟩
  · exact ⟨_, List.mem_cons_self, by simp⟩

/-- A popped task is leased or put back, unless putting it back fails too. Every try takes one read
and one write. -/
lemma settles_retryClaim (h : Holds l lost ks L) {id worker : String} {t : Task}
    (ht : L.get? id = some t) (hs : t.status = .pending) (newId : String) (tries : Nat) :
    Stage.Settles l now (fun tr r ks' =>
        Leaves l (lost \ {id}) L newId now (.dequeue worker)
            (ks.apply (.scoredAdd l.pendingKey id t.createdAt)) r ks' ∨
          ks' = ks ∧ (∃ e, r = .error e) ∧
            ∃ x e a, (Stage.restoring id x e, a) ∈ tr ∧ a ≠ .ok (.committed true))
      (2 * tries + 1) (Stage.retryClaim worker id t.createdAt tries) ks := by
  -- every failure leads to the attempt to put the id back
  have hrestoring : ∀ {n : Nat} (evs : List Stage.Event) (e : StoreError),
      Stage.Settles l now (fun tr r ks' =>
        Leaves l (lost \ {id}) L newId now (.dequeue worker)
            (ks.apply (.scoredAdd l.pendingKey id t.createdAt)) r ks' ∨
          ks' = ks ∧ (∃ e, r = .error e) ∧
            ∃ x e a, (Stage.restoring id x e, a) ∈ evs ++ tr ∧ a ≠ .ok (.committed true))
        (n + 1) (.restoring id t.createdAt e) ks := by
    intro n evs e
    refine (h.settles_restoring ht hs e).mono (by omega) ?_
    rintro tr r ks' ⟨rfl, ⟨hback, rfl⟩ | ⟨rfl, a, ha, hne⟩⟩
    · exact .inl (hback.leaves_error _ e)
    · exact .inr ⟨rfl, ⟨e, rfl⟩, _, e, a, List.mem_append_right evs ha, hne⟩
  induction tries with
  | zero => exact hrestoring [] _
  | succ tries ih =>
      rw [Stage.retryClaim]
      refine .read rfl ?_ (hrestoring [_] _)
      rw [Stage.resume, h.indexed.sound.loaded_readHash, h.task?_eq, ht]
      dsimp only [Stage.claimRead]
      rw [if_pos hs]
      obtain rfl := Ledger.id_of_get? ht
      obtain ⟨ks', hanswer, hks'⟩ := h.transition_kept ht (t.sameIdentity_claim worker now)
      refine .commit rfl hanswer
        (.finished (.inl ⟨⟨_, hks', .leased worker ht hs⟩, fun e he => by cases he⟩))
        (hrestoring [_, _] _) (ih.mono le_rfl ?_)
      rintro tr r ks'' (hleaves | ⟨hlost, he, x, e, a, ha, hne⟩)
      · exact .inl hleaves
      · exact .inr ⟨hlost, he, x, e, a, by simp [ha], hne⟩

/-- A dequeue loses no task but one that it strands, of which it takes the id out of the queue. -/
lemma settles_popping (h : Holds l lost ks L) (worker : String) :
    Stage.Settles l now (fun tr r ks' =>
        Leaves l lost L newId now (.dequeue worker) ks r ks' ∨
          ∃ id, Stage.Strands tr r id ∧ Unqueues l id ks ks' ∧ Holds l (lost ∪ {id}) ks' L)
      (2 * Stage.maxTries + 2) (.popping worker) ks := by
  refine .ask rfl (by simp) (by simp) ?_
  rcases ks.popMin_cases l.pendingKey with ⟨-, heq⟩ | ⟨⟨id, x⟩, rest, hsome, -, -⟩
  · have hanswer : ks.answer (.popMin l.pendingKey) = (.popped none, ks) := by rw [answer, heq]
    rw [hanswer]
    exact .finished (.inl (h.leaves_ok (.idle worker)))
  · obtain ⟨t, ks', ht, hs, rfl, -, hpop, hpopped⟩ := h.pop hsome
    have hks' : ks' = (ks.popMin l.pendingKey).2 := (congrArg Prod.snd hpop).symm
    rw [hpop]
    refine (hpopped.settles_retryClaim ht hs newId Stage.maxTries).mono le_rfl ?_
    rintro tr r ks'' (⟨⟨L', hL', hmay⟩, hunchanged⟩ | ⟨rfl, ⟨e', rfl⟩, x, e, a, ha, hne⟩)
    · refine .inl ⟨⟨L', hL'.mono ?_, hmay⟩, fun e he => ?_⟩
      · rw [Set.union_sdiff_right]
        exact Set.sdiff_subset
      · rw [hunchanged e he, hks']
        exact h.indexed.inStep.scoredAdd_of_popMin hsome
    · refine .inr ⟨id, ⟨⟨e', rfl⟩, ⟨worker, t.createdAt, List.mem_cons_self⟩,
        x, e, a, List.mem_cons_of_mem _ ha, hne⟩, ⟨⟨t, ?_, hs, ?_⟩, ?_⟩, hpopped⟩
      · rw [hpopped.task?_eq, ht]
      · exact ((h.indexed.inStep l.pendingKey).popMin_least hsome).1
      · rw [hks', h.indexed.inStep.popMin_eq_apply hsome]

/-! ### Calls on many tasks with faults -/

/-- Listing reads the listed tasks one after the other, or fails. -/
lemma settles_nextListed (h : Holds l lost ks L) (status : Option Status) (ids : List String)
    (found : List Task) {now' : Timestamp}
    (hids : ∀ id ∈ ids, ∃ t, ks.task? l id = some t ∧ status.all (· = t.status) = true) :
    Stage.Settles l now' (fun _ r ks' => ks' = ks ∧ ((∃ e, r = .error e) ∨
        r = .ok (.tasks (Task.sort (found ++ ids.filterMap (ks.task? l))))))
      ids.length (Stage.nextListed status found ids) ks := by
  induction ids generalizing found with
  | nil =>
      rw [List.filterMap_nil, List.append_nil]
      exact .finished ⟨rfl, .inr rfl⟩
  | cons id ids ih =>
      obtain ⟨t, ht, hs⟩ := hids id List.mem_cons_self
      rw [Stage.nextListed]
      refine .read rfl ?_ (.finished ⟨rfl, .inl ⟨_, rfl⟩⟩)
      rw [Stage.resume, h.indexed.sound.loaded_readHash, ht]
      dsimp only [Stage.listedRead]
      rw [if_pos hs, List.filterMap_cons, ht, List.append_cons]
      exact ih (found ++ [t]) fun id' hid' => hids id' (List.mem_cons_of_mem _ hid')

lemma settles_indexing (h : Holds l lost ks L) (status : Option Status) {now' : Timestamp} :
    Stage.Settles l now' (fun _ => Leaves l lost L newId now (.list status) ks)
      ((ks.members (l.indexKey status)).length + 1) (.indexing status) ks := by
  have hids := h.indexed.mem_indexKey status
  refine .ask rfl (by simp) (by simp) ?_
  refine (h.settles_nextListed status _ [] fun id hid => (hids id).mp hid).mono le_rfl ?_
  rintro tr r ks' ⟨rfl, ⟨e, rfl⟩ | rfl⟩
  · exact h.leaves_error _ e
  · rw [List.nil_append, h.sort_filterMap_members status]
    exact h.leaves_ok (.listed status)

/-- A sweep ends some of the overdue leases, one after the other, and all of them if nothing
fails. -/
lemma settles_nextOverdue {sweep : Sweep} (ts : List Task) (report : SweepReport)
    (h : Holds l lost ks L) (hid : (ts.map Task.id).Nodup)
    (hts : ∀ t ∈ ts, L.get? t.id = some t ∧ t.isOverdue sweep.threshold = true) :
    Stage.Settles l now (fun tr r ks' => ∃ ts' : List Task, ts'.Sublist ts ∧
        r = .ok (.swept
          (ts'.foldl (Ledger.expireOne sweep.now sweep.maxAttempts) (report, L)).1.sort) ∧
        Holds l lost ks' (ts'.foldl (Ledger.expireOne sweep.now sweep.maxAttempts) (report, L)).2 ∧
        (Stage.Undisturbed tr → ts' = ts))
      (2 * ts.length) (Stage.nextOverdue sweep report (ts.map Task.id)) ks := by
  induction ts generalizing report ks L with
  | nil => exact .finished ⟨[], .refl _, rfl, h, fun _ => rfl⟩
  | cons t ts ih =>
      rw [List.map_cons, List.nodup_cons] at hid
      obtain ⟨ht, ho⟩ := hts t List.mem_cons_self
      obtain ⟨ks', hanswer, hks'⟩ := h.transition ht
        (t.sameIdentity_expire sweep.maxAttempts sweep.now)
        ((h.clean ht).expire sweep.maxAttempts sweep.now)
      -- a lease that cannot be read or ended is left alone
      have hpassed : ∀ (n : Nat) (evs : List Stage.Event), 2 * ts.length ≤ n →
          ¬ Stage.Undisturbed evs → Stage.Settles l now (fun tr r ks' =>
          ∃ ts' : List Task, ts'.Sublist (t :: ts) ∧
            r = .ok (.swept
              (ts'.foldl (Ledger.expireOne sweep.now sweep.maxAttempts) (report, L)).1.sort) ∧
            Holds l lost ks'
              (ts'.foldl (Ledger.expireOne sweep.now sweep.maxAttempts) (report, L)).2 ∧
            (Stage.Undisturbed (evs ++ tr) → ts' = t :: ts))
          n (Stage.nextOverdue sweep report (ts.map Task.id)) ks := by
        intro n evs hn hevs
        refine (ih report h hid.2 fun t' ht' => hts t' (List.mem_cons_of_mem _ ht')).mono hn ?_
        rintro tr r ks'' ⟨ts', hsub, hr, hks'', -⟩
        refine ⟨ts', hsub.cons t, hr, hks'', fun hall => absurd (fun ev hev => ?_) hevs⟩
        exact hall ev (List.mem_append_left tr hev)
      have hrest : ∀ t' ∈ ts, (L.put (t.expire sweep.maxAttempts sweep.now)).get? t'.id = some t' ∧
          t'.isOverdue sweep.threshold = true := by
        intro t' ht'
        have hne : t'.id ≠ t.id := fun heq => hid.1 (heq ▸ List.mem_map_of_mem ht')
        rw [Ledger.get?_put, Ledger.expire_id, if_neg hne]
        exact hts t' (List.mem_cons_of_mem _ ht')
      rw [List.map_cons, Stage.nextOverdue, List.length_cons, Nat.mul_succ]
      refine .read rfl ?_ (hpassed _ [_] (by omega) fun hall => ?_)
      · rw [Stage.resume, h.indexed.sound.loaded_readHash, h.task?_eq, ht]
        dsimp only [Stage.overdueRead]
        rw [if_pos ho]
        refine .commit rfl hanswer ?_ (hpassed _ [_, _] le_rfl fun hall => ?_)
          (hpassed _ [_, _] le_rfl fun hall => ?_)
        · refine (ih _ (hks'.mono Set.sdiff_subset) hid.2 hrest).mono le_rfl ?_
          rintro tr r ks'' ⟨ts', hsub, hr, hks'', hundisturbed⟩
          refine ⟨t :: ts', hsub.cons_cons t, hr, hks'', fun hall => ?_⟩
          rw [hundisturbed fun ev hev => hall ev (by simp [hev])]
        · simp [Stage.Undisturbed] at hall
        · simp [Stage.Undisturbed] at hall
      · simp [Stage.Undisturbed] at hall

/-- A sweep looks the overdue leases up and ends some of them, and all of them if nothing fails. -/
lemma settles_scanning (h : Holds l lost ks L) (maxAge : Int64) (maxAttempts : UInt32) :
    Stage.Settles l now (fun tr r ks' => ∃ ts : List Task, (ts.map Task.id).Nodup ∧
        (∀ t ∈ ts, L.get? t.id = some t ∧ t.isOverdue (Timestamp.before now maxAge) = true) ∧
        r = .ok (.swept (ts.foldl (Ledger.expireOne now maxAttempts) (.empty, L)).1.sort) ∧
        Holds l lost ks' (ts.foldl (Ledger.expireOne now maxAttempts) (.empty, L)).2 ∧
        (Stage.Undisturbed tr → ∀ t, L.get? t.id = some t →
          t.isOverdue (Timestamp.before now maxAge) = true → t ∈ ts))
      (2 * ((ks.scoredSet l.inProgressKey).below (Timestamp.before now maxAge)).length + 1)
      (.scanning ⟨now, Timestamp.before now maxAge, maxAttempts⟩) ks := by
  obtain ⟨ts, hbelow, hid, hts⟩ := h.overdue_tasks (Timestamp.before now maxAge)
  have hsettles := @settles_nextOverdue l lost ks L now
    ⟨now, Timestamp.before now maxAge, maxAttempts⟩ ts .empty h hid fun t ht => (hts t).mp ht
  rw [← hbelow] at hsettles
  rw [hbelow, List.length_map]
  refine .ask rfl (by simp) (by simp) (hsettles.mono le_rfl ?_)
  rintro tr r ks' ⟨ts', hsub, hr, hks', hundisturbed⟩
  refine ⟨ts', hid.sublist (hsub.map Task.id), fun t ht => (hts t).mp (hsub.subset ht), hr, hks',
    fun hall t ht ho => ?_⟩
  rw [hundisturbed fun ev hev => hall ev (List.mem_cons_of_mem _ hev)]
  exact (hts t).mpr ⟨ht, ho⟩

end Holds

end Keyspace

/-! ### Calls on the task store -/

namespace KeyspaceStore

/-- A task store without foreign batches keeps the tasks of a ledger; only tasks in `lost` may wait
outside its queue. -/
structure Keeps (s : KeyspaceStore) (lost : Set String) (L : Ledger) : Prop where
  keyspace : Keyspace.Holds s.layout lost s.shared.keyspace L
  races : s.shared.plan.races = []

/-- A store without tasks under a plan of faults. -/
def emptyUnder (name : String) (plan : FaultPlan) : KeyspaceStore := ⟨⟨name⟩, .empty, plan, 0⟩

lemma keeps_emptyUnder (name : String) {plan : FaultPlan} (h : plan.races = []) :
    Keeps (emptyUnder name plan) ∅ .empty :=
  ⟨Keyspace.holds_empty ⟨name⟩, h⟩

/-- The requests of a call on a task store, each with its answer. -/
def transcript (s : KeyspaceStore) (id : String) (now : Timestamp) (c : Call) : List Stage.Event :=
  Stage.trace s.layout now (Stage.start id now c) s.shared

/-- A call gives what its stages settle with. -/
lemma perform_of_settles {s : KeyspaceStore} (hraces : s.shared.plan.races = []) {id : String}
    {now : Timestamp} {c : Call}
    {Q : List Stage.Event → Except StoreError Outcome → Keyspace → Prop} {n : Nat}
    (hsettles : Stage.Settles s.layout (c.clock now) Q n (Stage.start id now c) s.shared.keyspace)
    (hn : n ≤ (2 * Stage.maxTries + 2) * (s.shared.keyspace.extent + 2))
    (hreturns : ∀ tr o ks, Q tr (.ok o) ks → c.Returns o) :
    Q (Stage.trace s.layout (c.clock now) (Stage.start id now c) s.shared)
        (Storage.perform s id now c).1 (Storage.perform s id now c).2.shared.keyspace ∧
      (Storage.perform s id now c).2.shared.plan.races = [] := by
  have hrun := hsettles.run hraces hn
  rw [s.perform_snd, s.perform_fst id now c fun o ho => hreturns _ o _ (ho ▸ hrun.1)]
  exact hrun

namespace Keeps

variable {s : KeyspaceStore} {lost : Set String} {L : Ledger}

/-- A sweep ends some of the overdue leases, and all of them if nothing fails. -/
theorem perform_recover (h : s.Keeps lost L) (id : String) (now : Timestamp) (maxAge : Int64)
    (maxAttempts : UInt32) :
    ∃ ts : List Task, (ts.map Task.id).Nodup ∧
      (∀ t ∈ ts, L.get? t.id = some t ∧ t.isOverdue (Timestamp.before now maxAge) = true) ∧
      (Storage.perform s id now (.recover maxAge maxAttempts)).1
        = .ok (.swept (ts.foldl (Ledger.expireOne now maxAttempts) (.empty, L)).1.sort) ∧
      Keeps (Storage.perform s id now (.recover maxAge maxAttempts)).2 lost
        (ts.foldl (Ledger.expireOne now maxAttempts) (.empty, L)).2 ∧
      (Stage.Undisturbed (s.transcript id now (.recover maxAge maxAttempts)) →
        ∀ t, L.get? t.id = some t → t.isOverdue (Timestamp.before now maxAge) = true → t ∈ ts) := by
  have hsize := s.shared.keyspace.size_scoredSet_le_extent s.layout.inProgressKey
  have hbelow := ScoredSet.length_below_le
    (s.shared.keyspace.scoredSet s.layout.inProgressKey) (Timestamp.before now maxAge)
  have hsettles := @Keyspace.Holds.settles_scanning s.layout lost _ L now h.keyspace maxAge
    maxAttempts
  obtain ⟨⟨ts, hid, hts, hr, hks, hall⟩, hraces⟩ :=
    @perform_of_settles s h.races id now (.recover maxAge maxAttempts) _ _ hsettles
      (by rw [Stage.maxTries]; omega) (by rintro tr o ks ⟨ts, -, -, ho, -⟩; cases ho; trivial)
  exact ⟨ts, hid, hts, hr, ⟨(s.layout_perform id now _).symm ▸ hks, hraces⟩, hall⟩

/-- A call does what it may, if a new task has a new id, and changes nothing if it fails; or it is a
dequeue that strands an id, and only takes that out of the queue. -/
theorem perform_leaves (h : s.Keeps lost L) (id : String) (now : Timestamp) (c : Call)
    (hnew : c.isEnqueue = true → L.get? id = none) :
    (Keyspace.Leaves s.layout lost L id now c s.shared.keyspace (Storage.perform s id now c).1
        (Storage.perform s id now c).2.shared.keyspace ∨
      (∃ worker, c = .dequeue worker) ∧ ∃ i,
        Stage.Strands (s.transcript id now c) (Storage.perform s id now c).1 i ∧
        Keyspace.Unqueues s.layout i s.shared.keyspace
          (Storage.perform s id now c).2.shared.keyspace ∧
        Keyspace.Holds s.layout (lost ∪ {i}) (Storage.perform s id now c).2.shared.keyspace L) ∧
    (Storage.perform s id now c).2.shared.plan.races = [] := by
  have hfuel : 68 + 34 * s.shared.keyspace.extent
      = (2 * Stage.maxTries + 2) * (s.shared.keyspace.extent + 2) := by
    rw [Stage.maxTries]
    omega
  have hreturns : ∀ (tr : List Stage.Event) (o : Outcome) (ks : Keyspace),
      Keyspace.Leaves s.layout lost L id now c s.shared.keyspace (.ok o) ks → c.Returns o :=
    fun _ _ _ hleaves => hleaves.may.elim fun _ hmay => hmay.2.returns
  -- a call that is no dequeue strands nothing
  have hsame : ∀ n, Stage.Settles s.layout (c.clock now)
        (fun _ => Keyspace.Leaves s.layout lost L id now c s.shared.keyspace) n
        (Stage.start id now c) s.shared.keyspace → n ≤ 68 + 34 * s.shared.keyspace.extent →
      Keyspace.Leaves s.layout lost L id now c s.shared.keyspace (Storage.perform s id now c).1
        (Storage.perform s id now c).2.shared.keyspace ∧
      (Storage.perform s id now c).2.shared.plan.races = [] :=
    fun n hsettles hn => perform_of_settles h.races hsettles (hn.trans hfuel.le) hreturns
  cases c with
  | enqueue type payload metadata =>
      exact (hsame 1 (h.keyspace.settles_enqueue (hnew rfl) type payload metadata)
        (by omega)).imp_left .inl
  | dequeue worker =>
      have hsettles := @Keyspace.Holds.settles_popping s.layout lost _ L now id h.keyspace worker
      refine (@perform_of_settles s h.races id now (.dequeue worker) _ _ hsettles
        (by rw [← hfuel, Stage.maxTries]; omega) ?_).imp_left fun hcases =>
          hcases.imp_right fun hlost => ⟨⟨worker, rfl⟩, hlost⟩
      rintro tr o ks (hleaves | ⟨i, ⟨⟨e, he⟩, -, -⟩, -⟩)
      · exact hreturns tr o ks hleaves
      · cases he
  | ack taskId success result =>
      exact (hsame _ (h.keyspace.settles_acking taskId success result Stage.maxTries)
        (by rw [Stage.maxTries]; omega)).imp_left .inl
  | list status =>
      have hlength := s.shared.keyspace.length_members_le_extent (s.layout.indexKey status)
      exact (hsame _ (h.keyspace.settles_indexing status) (by omega)).imp_left .inl
  | get taskId =>
      exact (hsame 1 (h.keyspace.settles_fetching taskId) (by omega)).imp_left .inl
  | heartbeat taskId =>
      exact (hsame _ (h.keyspace.settles_beating taskId Stage.maxTries)
        (by rw [Stage.maxTries]; omega)).imp_left .inl
  | recover maxAge maxAttempts =>
      obtain ⟨ts, hid, hts, hr, hkeeps, -⟩ := h.perform_recover id now maxAge maxAttempts
      have hks := hkeeps.keyspace
      rw [s.layout_perform] at hks
      rw [hr]
      exact ⟨.inl (hks.leaves_ok (.swept maxAttempts hid hts)), hkeeps.races⟩

/-- Every call keeps of the tasks what hashes keep, and loses no task but one that it strands. -/
theorem perform_kept (h : s.Keeps lost L) (id : String) (now : Timestamp) (c : Call)
    (hnew : c.isEnqueue = true → L.get? id = none) :
    ∃ lost' L', Keeps (Storage.perform s id now c).2 lost' L'.kept ∧
      L.May id now c (Storage.perform s id now c).1 L' ∧
      ∀ i ∈ lost', i ∈ lost ∨ (∃ worker, c = .dequeue worker) ∧
        Stage.Strands (s.transcript id now c) (Storage.perform s id now c).1 i := by
  have hlayout := s.layout_perform id now c
  obtain ⟨⟨⟨L', hks, hmay⟩, -⟩ | ⟨hworker, i, hstrands, -, hks⟩, hraces⟩ :=
    h.perform_leaves id now c hnew
  · exact ⟨lost, L', ⟨hlayout ▸ hks, hraces⟩, hmay, fun _ => .inl⟩
  · obtain ⟨e, he⟩ := hstrands.failed
    refine ⟨lost ∪ {i}, L, ⟨hlayout ▸ hks.kept, hraces⟩, he ▸ .failed c e, ?_⟩
    rintro j (hj | rfl)
    · exact .inl hj
    · exact .inr ⟨hworker, hstrands⟩

/-- So it keeps the tasks themselves, if a lease has an owner. -/
theorem perform (h : s.Keeps lost L) (id : String) (now : Timestamp) (c : Call)
    (hnew : c.isEnqueue = true → L.get? id = none) (howner : c ≠ .dequeue "") :
    ∃ lost' L', Keeps (Storage.perform s id now c).2 lost' L' ∧
      L.May id now c (Storage.perform s id now c).1 L' ∧
      ∀ i ∈ lost', i ∈ lost ∨ (∃ worker, c = .dequeue worker) ∧
        Stage.Strands (s.transcript id now c) (Storage.perform s id now c).1 i := by
  obtain ⟨lost', L', hkeeps, hmay, hlost⟩ := h.perform_kept id now c hnew
  have hclean := hmay.allClean h.keyspace.allClean fun hc => absurd hc howner
  exact ⟨lost', L', hclean.kept_eq ▸ hkeeps, hmay, hlost⟩

end Keeps

end KeyspaceStore

end LeaseQueue
