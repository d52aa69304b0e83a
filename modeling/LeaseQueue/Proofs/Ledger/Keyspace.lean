/-
The keyspace keeps the ledger.

* `Keyspace.Holds`: the stored tasks are those of a ledger, and the indexes agree with them;
* `Holds.ends_enqueue` to `Holds.ends_scanning`: every call ends, after a number of requests bounded
  by the entries it meets, with the result and the tasks of the ledger;
* `Holds.ends_call`: so every call does what it does on the ledger;
* `KeyspaceStore.Holds`, `KeyspaceStore.Holds.perform`: so does every call on the task store; a
  worker without a name is kept as none (`KeyspaceStore.Holds.perform_kept`).
-/
import LeaseQueue.Proofs.Keyspace.Cost
import LeaseQueue.Proofs.Keyspace.Indexes
import LeaseQueue.Proofs.Ledger.May

namespace LeaseQueue

/-! ### The results of calls -/

/-- The kind of outcome that a call has. -/
def Call.Returns : Call → Outcome → Prop
  | .enqueue _ _ _, .task _ | .ack _ _ _, .task _ | .heartbeat _, .task _ => True
  | .dequeue _, .found _ | .get _, .found _ => True
  | .list _, .tasks _ | .recover _ _, .swept _ => True
  | _, _ => False

lemma Ledger.May.returns {L L' : Ledger} {id : String} {now : Timestamp} {c : Call} {o : Outcome}
    (h : L.May id now c (.ok o) L') : c.Returns o := by
  cases h <;> trivial

/-- The time that a call reads; calls that only read tasks take none. -/
def Call.clock (now : Timestamp) : Call → Timestamp
  | .list _ | .get _ => 0
  | _ => now

namespace Keyspace

/-! ### The keyspace -/

/-- The stored tasks are those of a ledger, and the indexes agree with them up to lost tasks. -/
structure Holds (l : Layout) (lost : Set String) (ks : Keyspace) (L : Ledger) : Prop where
  indexed : Indexed l lost ks
  task?_eq : ∀ id, ks.task? l id = L.get? id

lemma holds_empty (l : Layout) : Holds l ∅ empty .empty := ⟨indexed_empty l, task?_empty l⟩

namespace Holds

variable {l : Layout} {lost : Set String} {ks : Keyspace} {L : Ledger} {now : Timestamp}

lemma clean (h : Holds l lost ks L) {id : String} {t : Task} (ht : L.get? id = some t) :
    t.Clean :=
  h.indexed.sound.clean ((h.task?_eq id).trans ht)

lemma allClean (h : Holds l lost ks L) : L.AllClean := fun _ _ ht => h.clean ht

lemma kept (h : Holds l lost ks L) : Holds l lost ks L.kept := h.allClean.kept_eq.symm ▸ h

/-- A written task is stored as its hash keeps it. -/
lemma put_kept {ks' : Keyspace} {lost' : Set String} {t : Task} (h : Holds l lost ks L)
    (hindexed : Indexed l lost' ks')
    (htask : ∀ id, ks'.task? l id = if id = t.id then some t.kept else ks.task? l id) :
    Holds l lost' ks' (L.put t).kept := by
  refine ⟨hindexed, fun id => ?_⟩
  rw [h.allClean.kept_put, Ledger.get?_put, htask, Task.kept_id, h.task?_eq]

lemma put {ks' : Keyspace} {lost' : Set String} {t : Task} (h : Holds l lost ks L)
    (hindexed : Indexed l lost' ks')
    (htask : ∀ id, ks'.task? l id = if id = t.id then some t.kept else ks.task? l id)
    (hclean : t.Clean) : Holds l lost' ks' (L.put t) :=
  (h.allClean.put hclean).kept_eq ▸ h.put_kept hindexed htask

/-- The guards of a task hold while it is stored as it was read. -/
lemma guards (h : Holds l lost ks L) {t : Task} (ht : L.get? t.id = some t) :
    (l.guarded t).guards.all ks.holds = true :=
  (h.indexed.sound.guards_iff t).mpr ⟨t, (h.task?_eq _).trans ht, rfl, rfl⟩

lemma mono (h : Holds l lost ks L) {lost' : Set String} (hsub : lost ⊆ lost') :
    Holds l lost' ks L :=
  ⟨h.indexed.mono hsub, h.task?_eq⟩

/-- A transition of a task as it is stored is applied, and its task is not lost then. -/
lemma transition_kept (h : Holds l lost ks L) {t t' : Task} (ht : L.get? t.id = some t)
    (hsame : Task.SameIdentity t' t) :
    ∃ ks', ks.answer (.commit (l.transition t t')) = (.committed true, ks') ∧
      Holds l (lost \ {t.id}) ks' (L.put t').kept := by
  have hstored : ks.task? l t'.id = some t := by rw [h.task?_eq, hsame.1, ht]
  obtain ⟨hindexed, htask⟩ := h.indexed.transition hstored hsame
  rw [hsame.1] at hindexed
  exact ⟨_, ks.answer_commit (h.guards ht), h.put_kept hindexed htask⟩

lemma transition (h : Holds l lost ks L) {t t' : Task} (ht : L.get? t.id = some t)
    (hsame : Task.SameIdentity t' t) (hclean : t'.Clean) :
    ∃ ks', ks.answer (.commit (l.transition t t')) = (.committed true, ks') ∧
      Holds l (lost \ {t.id}) ks' (L.put t') :=
  (h.allClean.put hclean).kept_eq ▸ h.transition_kept ht hsame

/-- A refresh of a task as it is stored is applied. -/
lemma refresh (h : Holds l lost ks L) {id : String} {t : Task} (ht : L.get? id = some t)
    (now : Timestamp) :
    ∃ ks', ks.answer (.commit (l.refresh id t (t.touch now))) = (.committed true, ks') ∧
      Holds l lost ks' (L.put (t.touch now)) := by
  obtain rfl : t.id = id := Ledger.id_of_get? ht
  have hstored : ks.task? l (t.touch now).id = some t := (h.task?_eq _).trans ht
  obtain ⟨hindexed, htask⟩ := h.indexed.refresh t hstored (t.sameIdentity_touch now) rfl
  have hguards : (l.refresh t.id t (t.touch now)).guards.all ks.holds = true := h.guards ht
  exact ⟨_, ks.answer_commit hguards, h.put hindexed htask ((h.clean ht).touch now)⟩

/-- Popping gives the first waiting task that is not lost, which then is. -/
lemma pop (h : Holds l lost ks L) {id : String} {x : Int64} {rest : ScoredSet}
    (hpop : (ks.scoredSet l.pendingKey).popMin = some ((id, x), rest)) :
    ∃ t ks', L.get? id = some t ∧ t.status = .pending ∧ t.createdAt = x ∧
      (∀ t', L.get? t'.id = some t' → t'.status = .pending → t'.id ∉ lost → Task.le t t' = true) ∧
      ks.answer (.popMin l.pendingKey) = (.popped (some (id, x)), ks') ∧
      Holds l (lost ∪ {id}) ks' L := by
  obtain ⟨⟨t, ht, hs, hx, hleast⟩, hindexed, htask⟩ := h.indexed.pop hpop
  refine ⟨t, (ks.popMin l.pendingKey).2, (h.task?_eq id).symm.trans ht, hs, hx,
    fun t' ht' hs' hlost => ?_, ?_, hindexed, fun id' => (htask id').trans (h.task?_eq id')⟩
  · exact hleast t'.id t' ((h.task?_eq _).trans ht') hs' hlost
  · rcases ks.popMin_cases l.pendingKey with ⟨hnone, -⟩ | ⟨entry, rest', hsome, hentry, -⟩
    · rw [hnone] at hpop
      simp at hpop
    · rw [hsome, Option.some_inj, Prod.mk.injEq] at hpop
      rw [answer, ← hpop.1, ← hentry]

/-! ### Calls on one task -/

/-- A new task is stored by one request. -/
lemma ends_enqueue (h : Holds l ∅ ks L) {id : String} (hnew : L.get? id = none)
    (type payload : String) (metadata : Metadata) :
    Stage.Ends l now (fun r ks' =>
        r = (Storage.enqueue L id now type payload metadata).1.map .task ∧
          Holds l ∅ ks' (Storage.enqueue L id now type payload metadata).2) 1
      (Stage.start id now (.enqueue type payload metadata)) ks := by
  simp only [Stage.start, Storage.enqueue]
  cases ht : Task.new id now type payload metadata with
  | error e => exact Stage.Ends.finished ⟨rfl, h⟩
  | ok t =>
      obtain ⟨hid, hpending, hclean⟩ := Task.of_new ht
      have hnone : ks.task? l t.id = none := by rw [h.task?_eq, hid, hnew]
      obtain ⟨hindexed, htask⟩ := h.indexed.insert hnone hpending
      exact Stage.Ends.step rfl rfl (Stage.Ends.finished ⟨rfl, h.put hindexed htask hclean⟩)

lemma ends_fetching (h : Holds l ∅ ks L) (id : String) :
    Stage.Ends l now (fun r ks' => r = .ok (.found (L.get? id)) ∧ Holds l ∅ ks' L) 1
      (.fetching id) ks := by
  refine Stage.Ends.step rfl rfl ?_
  rw [Stage.resume, h.indexed.sound.loaded_readHash, h.task?_eq]
  exact Stage.Ends.finished ⟨rfl, h⟩

/-- Finishing a task takes one read and, unless it is refused, one write. -/
lemma ends_acking (h : Holds l ∅ ks L) (id : String) (success : Bool) (result : Option String)
    (tries : Nat) :
    Stage.Ends l now (fun r ks' =>
        r = (L.update id fun t => t.finish success result now).1.map .task ∧
          Holds l ∅ ks' (L.update id fun t => t.finish success result now).2) 2
      (.acking id success result tries) ks := by
  refine Stage.Ends.step rfl rfl ?_
  rw [Stage.resume, h.indexed.sound.loaded_readHash, h.task?_eq, Ledger.update]
  cases ht : L.get? id with
  | none => exact Stage.Ends.finished ⟨rfl, h⟩
  | some t =>
      dsimp only [Stage.ackRead]
      cases hfinish : t.finish success result now with
      | error e => exact Stage.Ends.finished ⟨rfl, h⟩
      | ok t' =>
          rw [← Ledger.id_of_get? ht] at ht
          obtain ⟨ks', hanswer, hks'⟩ := h.transition ht (Task.sameIdentity_finish hfinish)
            (Task.clean_finish hfinish)
          exact Stage.Ends.step rfl hanswer
            (Stage.Ends.finished ⟨rfl, hks'.mono Set.sdiff_subset⟩)

/-- Refreshing a task takes one read and one write. -/
lemma ends_beating (h : Holds l ∅ ks L) (id : String) (tries : Nat) :
    Stage.Ends l now (fun r ks' => r = (L.update id fun t => .ok (t.touch now)).1.map .task ∧
        Holds l ∅ ks' (L.update id fun t => .ok (t.touch now)).2) 2
      (.beating id tries) ks := by
  refine Stage.Ends.step rfl rfl ?_
  rw [Stage.resume, h.indexed.sound.loaded_readHash, h.task?_eq, Ledger.update]
  cases ht : L.get? id with
  | none => exact Stage.Ends.finished ⟨rfl, h⟩
  | some t =>
      obtain ⟨ks', hanswer, hks'⟩ := h.refresh ht now
      exact Stage.Ends.step rfl hanswer (Stage.Ends.finished ⟨rfl, hks'⟩)

/-- Leasing takes one pop and, unless the queue is empty, one read and one write. -/
lemma ends_popping (h : Holds l ∅ ks L) (worker : String) :
    Stage.Ends l now (fun r ks' => r = .ok (.found (L.dequeue now worker).1) ∧
        Holds l ∅ ks' (L.dequeue now worker).2.kept) 3
      (.popping worker) ks := by
  rw [Ledger.dequeue]
  rcases ks.popMin_cases l.pendingKey with ⟨hnone, heq⟩ | ⟨⟨id, x⟩, rest, hsome, hentry, -⟩
  · have hsel : (L.select fun t => t.status = .pending) = [] := by
      rw [List.eq_nil_iff_forall_not_mem]
      intro t ht
      obtain ⟨hget, hs⟩ := Ledger.mem_select.mp ht
      exact h.indexed.no_waiting hnone ((h.task?_eq _).trans hget) (of_decide_eq_true hs)
    have hanswer : ks.answer (.popMin l.pendingKey) = (.popped none, ks) := by rw [answer, heq]
    rw [hsel]
    exact Stage.Ends.step rfl hanswer (Stage.Ends.finished ⟨rfl, h.allClean.kept_eq.symm ▸ h⟩)
  · obtain ⟨t, ks', ht, hs, -, hleast, hpop, hpopped⟩ := h.pop hsome
    have hid := Ledger.id_of_get? ht
    have hget : L.get? t.id = some t := hid.symm ▸ ht
    -- the popped task is the first that waits
    obtain ⟨ts, hsel⟩ := @Ledger.select_eq_cons L (fun t => t.status = .pending) t
      (Ledger.mem_select.mpr ⟨hget, decide_eq_true hs⟩) fun t' ht' => by
        obtain ⟨hget', hs'⟩ := Ledger.mem_select.mp ht'
        exact hleast t' hget' (of_decide_eq_true hs') (Set.notMem_empty _)
    obtain ⟨ks'', hanswer, hks''⟩ := hpopped.transition_kept hget (t.sameIdentity_claim worker now)
    have hleased : Holds l ∅ ks'' (L.put (t.claim worker now)).kept := by
      refine hks''.mono ?_
      rw [hid, Set.empty_union, Set.sdiff_self]
    rw [hsel]
    refine Stage.Ends.step rfl hpop (Stage.Ends.step rfl rfl ?_)
    rw [Stage.resume, Stage.resume, hpopped.indexed.sound.loaded_readHash, hpopped.task?_eq, ht]
    dsimp only [Stage.claimRead]
    rw [if_pos hs]
    exact Stage.Ends.step rfl hanswer (Stage.Ends.finished ⟨rfl, hleased⟩)

/-! ### Calls on many tasks -/

/-- Ids of stored tasks are the ids of the tasks stored under them. -/
lemma map_id_filterMap (h : Holds l lost ks L) {ids : List String}
    (hids : ∀ id ∈ ids, ∃ t, ks.task? l id = some t) :
    (ids.filterMap (ks.task? l)).map Task.id = ids := by
  induction ids with
  | nil => rfl
  | cons id ids ih =>
      obtain ⟨t, ht⟩ := hids id List.mem_cons_self
      rw [List.filterMap_cons, ht, List.map_cons, h.indexed.sound.id_eq ht,
        ih fun id' hid' => hids id' (List.mem_cons_of_mem _ hid')]

/-- The tasks stored under ids that an index holds for a property. -/
lemma mem_filterMap (h : Holds l lost ks L) {ids : List String} {p : Task → Bool}
    (hids : ∀ id, id ∈ ids ↔ ∃ t, ks.task? l id = some t ∧ p t = true) (t : Task) :
    t ∈ ids.filterMap (ks.task? l) ↔ L.get? t.id = some t ∧ p t = true := by
  rw [List.mem_filterMap]
  constructor
  · rintro ⟨id, hid, ht⟩
    obtain ⟨t', ht', hp⟩ := (hids id).mp hid
    rw [ht, Option.some_inj] at ht'
    rw [← h.task?_eq, h.indexed.sound.id_eq ht]
    exact ⟨ht, ht' ▸ hp⟩
  · rintro ⟨ht, hp⟩
    rw [← h.task?_eq] at ht
    exact ⟨t.id, (hids t.id).mpr ⟨t, ht, hp⟩, ht⟩

/-- Listing reads the listed tasks one after the other. -/
lemma ends_nextListed (h : Holds l ∅ ks L) (status : Option Status) (ids : List String)
    (found : List Task)
    (hids : ∀ id ∈ ids, ∃ t, ks.task? l id = some t ∧ status.all (· = t.status) = true) :
    Stage.Ends l now (fun r ks' =>
        r = .ok (.tasks (Task.sort (found ++ ids.filterMap (ks.task? l)))) ∧ Holds l ∅ ks' L)
      ids.length (Stage.nextListed status found ids) ks := by
  induction ids generalizing found with
  | nil =>
      rw [List.filterMap_nil, List.append_nil]
      exact Stage.Ends.finished ⟨rfl, h⟩
  | cons id ids ih =>
      obtain ⟨t, ht, hs⟩ := hids id List.mem_cons_self
      rw [Stage.nextListed]
      refine Stage.Ends.step rfl rfl ?_
      rw [Stage.resume, h.indexed.sound.loaded_readHash, ht]
      dsimp only [Stage.listedRead]
      rw [if_pos hs, List.filterMap_cons, ht, List.append_cons]
      exact ih (found ++ [t]) fun id' hid' => hids id' (List.mem_cons_of_mem _ hid')

/-- The tasks under the listed ids are those of the status, or all tasks. -/
lemma sort_filterMap_members (h : Holds l lost ks L) (status : Option Status) :
    Task.sort ((ks.members (l.indexKey status)).filterMap (ks.task? l))
      = L.select fun t => status.all (· = t.status) := by
  have hids := h.indexed.mem_indexKey status
  refine Ledger.sort_eq_select ?_ (h.mem_filterMap hids)
  rw [h.map_id_filterMap fun id hid => ?_]
  · exact SortedMap.nodup_keys _
  · obtain ⟨t, ht, -⟩ := (hids id).mp hid
    exact ⟨t, ht⟩

/-- Listing takes one look-up and one read for each id in the index. -/
lemma ends_indexing (h : Holds l ∅ ks L) (status : Option Status) :
    Stage.Ends l now (fun r ks' =>
        r = .ok (.tasks (L.select fun t => status.all (· = t.status))) ∧ Holds l ∅ ks' L)
      ((ks.members (l.indexKey status)).length + 1) (.indexing status) ks := by
  rw [← h.sort_filterMap_members status]
  exact Stage.Ends.step rfl rfl (h.ends_nextListed status _ [] fun id hid =>
    (h.indexed.mem_indexKey status id).mp hid)

/-- The overdue ids are the ids of the overdue tasks, each once. -/
lemma overdue_tasks (h : Holds l lost ks L) (threshold : Timestamp) :
    ∃ ts : List Task, (ks.scoredSet l.inProgressKey).below threshold = ts.map Task.id ∧
      (ts.map Task.id).Nodup ∧
      ∀ t, t ∈ ts ↔ L.get? t.id = some t ∧ t.isOverdue threshold = true := by
  have hids := h.indexed.mem_below threshold
  have hmap : (((ks.scoredSet l.inProgressKey).below threshold).filterMap (ks.task? l)).map Task.id
      = (ks.scoredSet l.inProgressKey).below threshold := by
    refine h.map_id_filterMap fun id hid => ?_
    obtain ⟨t, ht, -⟩ := (hids id).mp hid
    exact ⟨t, ht⟩
  refine ⟨_, hmap.symm, ?_, h.mem_filterMap hids⟩
  rw [hmap]
  exact (h.indexed.inStep _).nodup_below _

/-- A sweep ends the overdue leases one after the other. -/
lemma ends_nextOverdue {sweep : Sweep} (ts : List Task) (report : SweepReport)
    (h : Holds l ∅ ks L) (hid : (ts.map Task.id).Nodup)
    (hts : ∀ t ∈ ts, L.get? t.id = some t ∧ t.isOverdue sweep.threshold = true) :
    Stage.Ends l now (fun r ks' =>
        r = .ok (.swept
          (ts.foldl (Ledger.expireOne sweep.now sweep.maxAttempts) (report, L)).1.sort) ∧
        Holds l ∅ ks' (ts.foldl (Ledger.expireOne sweep.now sweep.maxAttempts) (report, L)).2)
      (2 * ts.length) (Stage.nextOverdue sweep report (ts.map Task.id)) ks := by
  induction ts generalizing report ks L with
  | nil => exact Stage.Ends.finished ⟨rfl, h⟩
  | cons t ts ih =>
      rw [List.map_cons, List.nodup_cons] at hid
      obtain ⟨ht, ho⟩ := hts t List.mem_cons_self
      obtain ⟨ks', hanswer, hks'⟩ := h.transition ht
        (t.sameIdentity_expire sweep.maxAttempts sweep.now)
        ((h.clean ht).expire sweep.maxAttempts sweep.now)
      have hrest : ∀ t' ∈ ts, (L.put (t.expire sweep.maxAttempts sweep.now)).get? t'.id = some t' ∧
          t'.isOverdue sweep.threshold = true := by
        intro t' ht'
        have hne : t'.id ≠ t.id := fun heq => hid.1 (heq ▸ List.mem_map_of_mem ht')
        rw [Ledger.get?_put, Ledger.expire_id, if_neg hne]
        exact hts t' (List.mem_cons_of_mem _ ht')
      rw [List.map_cons, Stage.nextOverdue]
      refine Stage.Ends.step (n := 2 * ts.length + 1) rfl rfl ?_
      rw [Stage.resume, h.indexed.sound.loaded_readHash, h.task?_eq, ht]
      dsimp only [Stage.overdueRead]
      rw [if_pos ho]
      exact Stage.Ends.step rfl hanswer (ih _ (hks'.mono Set.sdiff_subset) hid.2 hrest)

/-- A sweep takes one look-up, and one read and one write for each overdue lease. -/
lemma ends_scanning (h : Holds l ∅ ks L) (maxAge : Int64) (maxAttempts : UInt32) :
    Stage.Ends l now (fun r ks' => r = .ok (.swept (L.recover now maxAge maxAttempts).1) ∧
        Holds l ∅ ks' (L.recover now maxAge maxAttempts).2)
      (2 * ((ks.scoredSet l.inProgressKey).below (Timestamp.before now maxAge)).length + 1)
      (.scanning ⟨now, Timestamp.before now maxAge, maxAttempts⟩) ks := by
  obtain ⟨ts, hbelow, hid, hts⟩ := h.overdue_tasks (Timestamp.before now maxAge)
  have hends := @ends_nextOverdue l ks L now ⟨now, Timestamp.before now maxAge, maxAttempts⟩
    ts .empty h hid fun t ht => (hts t).mp ht
  rw [← Ledger.recover_of_perm hid hts, hbelow, List.length_map]
  refine Stage.Ends.step rfl rfl ?_
  rw [hbelow]
  exact hends

/-! ### Every call -/

/-- Every call ends with the result that it has on the ledger, and leaves its tasks as hashes keep
them, if a new task has a new id. -/
theorem ends_call (h : Holds l ∅ ks L) (id : String) (now : Timestamp) (c : Call)
    (hnew : c.isEnqueue = true → L.get? id = none) :
    ∃ n, Stage.Ends l (c.clock now) (fun r ks' => r = (Storage.perform L id now c).1 ∧
        Holds l ∅ ks' (Storage.perform L id now c).2.kept) n (Stage.start id now c) ks := by
  have hkept : ∀ {stage : Stage} {clock : Timestamp} {n : Nat} {r₀ : Except StoreError Outcome}
      {L' : Ledger}, Stage.Ends l clock (fun r ks' => r = r₀ ∧ Holds l ∅ ks' L') n stage ks →
        ∃ n, Stage.Ends l clock (fun r ks' => r = r₀ ∧ Holds l ∅ ks' L'.kept) n stage ks :=
    fun hends => ⟨_, hends.mono le_rfl fun _ _ hleft => ⟨hleft.1, hleft.2.kept⟩⟩
  cases c with
  | enqueue type payload metadata => exact hkept (h.ends_enqueue (hnew rfl) type payload metadata)
  | dequeue worker => exact ⟨_, h.ends_popping worker⟩
  | ack taskId success result => exact hkept (h.ends_acking taskId success result _)
  | list status => exact hkept (h.ends_indexing status)
  | get taskId => exact hkept (h.ends_fetching taskId)
  | heartbeat taskId => exact hkept (h.ends_beating taskId _)
  | recover maxAge maxAttempts => exact hkept (h.ends_scanning maxAge maxAttempts)

end Holds

end Keyspace

/-! ### The task store -/

namespace CallsOf

variable {σ : Type} [Answers σ]

/-- A call leaves what its stages leave. -/
lemma perform_snd (s : CallsOf σ) (id : String) (now : Timestamp) (c : Call) :
    (Storage.perform s id now c).2 = ⟨s.layout,
      ((Stage.start id now c).run s.layout (c.clock now) s.shared).2⟩ := by
  cases c <;> rfl

/-- A call returns what its stages return, if that is of the kind of its outcomes. -/
lemma perform_fst (s : CallsOf σ) (id : String) (now : Timestamp) (c : Call)
    (h : ∀ o, ((Stage.start id now c).run s.layout (c.clock now) s.shared).1 = .ok o →
      c.Returns o) :
    (Storage.perform s id now c).1
      = ((Stage.start id now c).run s.layout (c.clock now) s.shared).1 := by
  have hwrap : ∀ {α : Type} (wrap : α → Outcome) (take : Outcome → Except StoreError α)
      (r : Except StoreError Outcome), (∀ o, r = .ok o → c.Returns o) →
        (∀ o, c.Returns o → (take o).map wrap = .ok o) → (r.bind take).map wrap = r := by
    intro α wrap take r hr htake
    cases r with
    | error e => rfl
    | ok o => exact htake o (hr o rfl)
  cases c with
  | enqueue =>
      exact hwrap .task Outcome.asTask _ h fun o ho => by cases o <;> first | rfl | cases ho
  | dequeue =>
      exact hwrap .found Outcome.asFound _ h fun o ho => by cases o <;> first | rfl | cases ho
  | ack => exact hwrap .task Outcome.asTask _ h fun o ho => by cases o <;> first | rfl | cases ho
  | list => exact hwrap .tasks Outcome.asTasks _ h fun o ho => by cases o <;> first | rfl | cases ho
  | get => exact hwrap .found Outcome.asFound _ h fun o ho => by cases o <;> first | rfl | cases ho
  | heartbeat =>
      exact hwrap .task Outcome.asTask _ h fun o ho => by cases o <;> first | rfl | cases ho
  | recover =>
      exact hwrap .swept Outcome.asSwept _ h fun o ho => by cases o <;> first | rfl | cases ho

end CallsOf

namespace KeyspaceStore

lemma layout_perform (s : KeyspaceStore) (id : String) (now : Timestamp) (c : Call) :
    (Storage.perform s id now c).2.layout = s.layout := by
  rw [s.perform_snd]

/-- A task store without faults keeps the tasks of a ledger. -/
structure Holds (s : KeyspaceStore) (L : Ledger) : Prop where
  keyspace : Keyspace.Holds s.layout ∅ s.shared.keyspace L
  plan : s.shared.plan = .none

lemma holds_empty (name : String) : (empty name).Holds .empty :=
  ⟨Keyspace.holds_empty ⟨name⟩, rfl⟩

namespace Holds

variable {s : KeyspaceStore} {L : Ledger}

/-- Every call on the task store does what it does on the ledger, if a new task has a new id, and
keeps of the tasks what hashes keep. -/
theorem perform_kept (h : Holds s L) (id : String) (now : Timestamp) (c : Call)
    (hnew : c.isEnqueue = true → L.get? id = none) :
    (Storage.perform s id now c).1 = (Storage.perform L id now c).1 ∧
      Holds (Storage.perform s id now c).2 (Storage.perform L id now c).2.kept := by
  obtain ⟨n, hends⟩ := h.keyspace.ends_call id now c hnew
  obtain ⟨⟨hresult, hks⟩, hplan⟩ := hends.run_start h.plan
  rw [s.perform_snd, s.perform_fst id now c fun o ho => ?_]
  · exact ⟨hresult, hks, hplan⟩
  · have hmay := L.may_perform id now c
    rw [← hresult, ho] at hmay
    exact hmay.returns

/-- So it keeps the tasks themselves, if a lease has an owner. -/
theorem perform (h : Holds s L) (id : String) (now : Timestamp) (c : Call)
    (hnew : c.isEnqueue = true → L.get? id = none) (howner : c ≠ .dequeue "") :
    (Storage.perform s id now c).1 = (Storage.perform L id now c).1 ∧
      Holds (Storage.perform s id now c).2 (Storage.perform L id now c).2 := by
  have hclean := (L.may_perform id now c).allClean h.keyspace.allClean fun hc => absurd hc howner
  obtain ⟨hresult, hstore⟩ := h.perform_kept id now c hnew
  exact ⟨hresult, hclean.kept_eq ▸ hstore⟩

end Holds

end KeyspaceStore

end LeaseQueue
