/-
The counters of a service balance with its store.

* `Balance`: totals tell how many tasks there are of each kind, and how often they were leased;
* `Task.Books`: what the change of one task is worth, so that totals stay balanced
  (`Balance.replace`); one lemma for each transition, and `Balance.sweep` for a sweep;
* `Balance.may`: so is whatever a call may do, if no new task is refused;
* `TaskStore.tasks`: all tasks of a store;
* `Service.balance_after`: after every run the counters balance with the store, whatever fails.
-/
import LeaseQueue.Proofs.Service.Counters
import LeaseQueue.Proofs.Service.History
import LeaseQueue.Proofs.Service.Refusals

namespace LeaseQueue

/-! ### Totals and tasks -/

/-- Totals tell how many tasks there are of each kind, and how often they were leased. -/
structure Balance (T : Totals) (tasks : List Task) : Prop where
  enqueued : T .enqueued = tasks.length
  dispatched : T .dispatched = (tasks.map fun t => t.attempts.toNat).sum
  completed : T .completed = tasks.countP fun t => t.status = .completed
  failed : T .failed + T .failedTimeout = tasks.countP fun t => t.status = .failed
  /-- Leases that are not over are no more than those handed out less those that a sweep ended. -/
  leased : (tasks.countP fun t => t.status = .inProgress) + T .retried + T .failedTimeout
    ≤ T .dispatched

/-- What the change of a task adds to totals that balance. -/
structure Task.Books (D : Totals) (t t' : Task) : Prop where
  enqueued : D .enqueued = 0
  dispatched : t'.attempts.toNat = t.attempts.toNat + D .dispatched
  completed : (if t'.status = .completed then 1 else 0)
    = (if t.status = .completed then 1 else 0) + D .completed
  failed : (if t'.status = .failed then 1 else 0)
    = (if t.status = .failed then 1 else 0) + D .failed + D .failedTimeout
  leased : (if t'.status = .inProgress then 1 else 0) + D .retried + D .failedTimeout
    ≤ (if t.status = .inProgress then 1 else 0) + D .dispatched

namespace Task

variable {t t' : Task} {now : Timestamp}

lemma books_claim (worker : String) (hs : t.status = .pending)
    (hclaim : (t.claim worker now).attempts.toNat = t.attempts.toNat + 1) :
    Books (Pi.single .dispatched 1) t (t.claim worker now) :=
  ⟨rfl, hclaim, by simp [claim, hs], by simp [claim, hs], by simp [claim]⟩

lemma books_finish {success : Bool} {result : Option String}
    (h : t.finish success result now = .ok t') :
    Books (Pi.single (if success then .completed else .failed) 1) t t' := by
  obtain ⟨hs, rfl⟩ := of_finish_eq_ok h
  have hcompleted : t.status ≠ .completed := fun heq => by simp [heq, Status.isTerminal] at hs
  have hfailed : t.status ≠ .failed := fun heq => by simp [heq, Status.isTerminal] at hs
  cases success <;> constructor <;> simp [hcompleted, hfailed]

lemma books_touch (t : Task) (now : Timestamp) : Books 0 t (t.touch now) :=
  ⟨rfl, rfl, rfl, rfl, le_rfl⟩

/-- The end of a lease is a retry or a failure. -/
lemma books_expire (maxAttempts : UInt32) (hs : t.status = .inProgress) :
    Books (Pi.single .retried (if (t.expire maxAttempts now).status = .pending then 1 else 0)
        + Pi.single .failedTimeout (if (t.expire maxAttempts now).status ≠ .pending then 1 else 0))
      t (t.expire maxAttempts now) := by
  rw [expire]
  split_ifs <;> constructor <;> simp_all [exhaust, requeue]

end Task

namespace Balance

variable {T D : Totals} {t t' : Task} {ts ts' : List Task}

lemma empty : Balance 0 [] := ⟨rfl, rfl, rfl, rfl, le_rfl⟩

lemma perm (h : Balance T ts) (hperm : ts.Perm ts') : Balance T ts' where
  enqueued := h.enqueued.trans hperm.length_eq
  dispatched := h.dispatched.trans (hperm.map _).sum_eq
  completed := h.completed.trans (hperm.countP_eq _)
  failed := h.failed.trans (hperm.countP_eq _)
  leased := hperm.countP_eq _ ▸ h.leased

/-- A new task waits and has not been leased. -/
lemma enqueue (h : Balance T ts) (hs : t.status = .pending) (hattempts : t.attempts = 0) :
    Balance (T + Pi.single .enqueued 1) (t :: ts) := by
  obtain ⟨henqueued, hdispatched, hcompleted, hfailed, hleased⟩ := h
  constructor <;> simp [hs, hattempts, henqueued, hdispatched, hcompleted, hfailed]
  rwa [← hdispatched]

/-- A change that is booked keeps the balance. -/
lemma replace (h : Balance T (t :: ts)) (hbooks : Task.Books D t t') :
    Balance (T + D) (t' :: ts) := by
  obtain ⟨henqueued, hdispatched, hcompleted, hfailed, hleased⟩ := h
  obtain ⟨henqueued', hdispatched', hcompleted', hfailed', hleased'⟩ := hbooks
  simp only [List.length_cons, List.map_cons, List.sum_cons, List.countP_cons, decide_eq_true_eq]
    at henqueued hdispatched hcompleted hfailed hleased
  constructor <;> simp only [Pi.add_apply, List.length_cons, List.map_cons, List.sum_cons,
    List.countP_cons, decide_eq_true_eq] <;> omega

end Balance

/-! ### Sweeps -/

lemma SweepReport.tally_sort (r : SweepReport) : r.sort.tally = r.tally := by
  simp only [tally, sort, (Task.sort_perm _).length_eq]

/-- A report counts one task more for each that is added. -/
lemma SweepReport.tally_add (r : SweepReport) (t : Task) (owner : Option String) :
    (r.add t owner).tally = r.tally
      + (Pi.single .retried (if t.status = .pending then 1 else 0)
        + Pi.single .failedTimeout (if t.status ≠ .pending then 1 else 0)) := by
  funext counter
  unfold add recordOwner tally
  cases owner <;> by_cases hs : t.status = .pending <;>
    simp [hs, Pi.single_apply] <;> split_ifs <;> omega

namespace Ledger

variable {T : Totals} {now : Timestamp} {maxAttempts : UInt32}

/-- A booked change of one task keeps the balance. -/
lemma balance_put {L : Ledger} (h : Balance T L.tasks.values) {t t' : Task} {D : Totals}
    (ht : L.get? t.id = some t) (hid : t'.id = t.id) (hbooks : Task.Books D t t') :
    Balance (T + D) (L.put t').tasks.values := by
  obtain ⟨rest, hbefore, hafter⟩ := values_put_of_some ht hid
  exact ((h.perm hbefore).replace hbooks).perm hafter.symm

/-- A sweep books the leases that it ends. -/
lemma balance_foldl_expireOne (ts : List Task) (acc : SweepReport × Ledger)
    (h : Balance (T + acc.1.tally) acc.2.tasks.values) (hid : (ts.map Task.id).Nodup)
    (hts : ∀ t ∈ ts, acc.2.get? t.id = some t ∧ t.status = .inProgress) :
    Balance (T + (ts.foldl (expireOne now maxAttempts) acc).1.tally)
      (ts.foldl (expireOne now maxAttempts) acc).2.tasks.values := by
  induction ts generalizing acc with
  | nil => exact h
  | cons t ts ih =>
      rw [List.map_cons, List.nodup_cons] at hid
      obtain ⟨ht, hs⟩ := hts t List.mem_cons_self
      refine ih (expireOne now maxAttempts acc t) ?_ hid.2 fun t' ht' => ?_
      · rw [expireOne, SweepReport.tally_add, ← add_assoc]
        exact balance_put h ht (expire_id t) (Task.books_expire maxAttempts hs)
      · have hne : t'.id ≠ t.id := fun heq => hid.1 (heq ▸ List.mem_map_of_mem ht')
        rw [expireOne, get?_put, expire_id, if_neg hne]
        exact hts t' (List.mem_cons_of_mem _ ht')

/-! ### Calls -/

variable {L L' : Ledger} {id : String} {call : ServiceCall} {q : QueueSettings}
  {r : Except StoreError Outcome} {limit : UInt32} {leases : List Task}

/-- Whatever a call may do, totals stay balanced, if a new task that is returned is stored. -/
theorem May.balance (hmay : L.May id now (call.toCall q) r L') (h : Balance T L.tasks.values)
    (hregular : L.Regular limit leases) (hnew : call.isEnqueue = true → L.get? id = none)
    (hstored : ∀ t, call.isEnqueue = true → r = .ok (.task t) → L'.get? t.id = some t) :
    Balance (T + call.tally r) L'.tasks.values := by
  have hfailed : ∀ e : StoreError, Balance (T + call.tally (.error e)) L.tasks.values := by
    intro e
    rwa [ServiceCall.tally_error, add_zero]
  cases call with
  | enqueue type payload metadata =>
      simp only [ServiceCall.toCall] at hmay
      cases hmay with
      | failed c e => exact hfailed e
      | @stored _ _ _ t ht =>
          obtain ⟨hid, hs, -⟩ := Task.of_new ht
          have hnone : L.get? t.id = none := hid ▸ hnew rfl
          refine (h.enqueue hs ?_).perm (values_put_of_none hnone).symm
          rw [Task.of_new_eq_ok ht]
      | @unstored _ _ _ t ht =>
          have hget := hstored t rfl rfl
          rw [(Task.of_new ht).1, hnew rfl] at hget
          simp at hget
  | dequeue worker =>
      simp only [ServiceCall.toCall] at hmay
      cases hmay with
      | failed c e => exact hfailed e
      | leased worker ht hs =>
          have hclaim := (hregular.within ht).toNat_claim hs worker now
          exact balance_put h ht rfl (Task.books_claim worker hs hclaim)
      | idle worker => exact h
  | ack taskId success result =>
      simp only [ServiceCall.toCall] at hmay
      cases hmay with
      | failed c e => exact hfailed e
      | finished ht hfinish =>
          obtain rfl := id_of_get? ht
          exact balance_put h ht (Task.sameIdentity_finish hfinish).1 (Task.books_finish hfinish)
  | list status =>
      simp only [ServiceCall.toCall] at hmay
      cases hmay with
      | failed c e => exact hfailed e
      | listed status => exact h
  | get taskId =>
      simp only [ServiceCall.toCall] at hmay
      cases hmay with
      | failed c e => exact hfailed e
      | fetched taskId => exact h
  | heartbeat taskId =>
      simp only [ServiceCall.toCall] at hmay
      cases hmay with
      | failed c e => exact hfailed e
      | refreshed ht =>
          obtain rfl := id_of_get? ht
          exact balance_put h ht rfl (Task.books_touch _ now)
  | recover =>
      simp only [ServiceCall.toCall] at hmay
      cases hmay with
      | failed c e => exact hfailed e
      | @swept _ _ ts hid hts =>
          have hempty : Balance (T + SweepReport.empty.tally) L.tasks.values := by
            rwa [SweepReport.tally_empty, add_zero]
          rw [ServiceCall.tally, SweepReport.tally_sort]
          exact balance_foldl_expireOne ts (.empty, L) hempty hid fun t ht =>
            ⟨(hts t ht).1, Task.status_of_isOverdue (hts t ht).2⟩

end Ledger

/-! ### Stores -/

namespace TaskStore

/-- All tasks of a store that can be read. -/
def tasks : TaskStore → List Task
  | table tb => tb.rows.filterMap fun r => r.decode.toOption
  | keyspace s => (s.shared.keyspace.members s.layout.allKey).filterMap
      (s.shared.keyspace.task? s.layout)

variable {s : TaskStore} {L L' : Ledger}

/-- A store keeps the tasks of one ledger only. -/
lemma Holds.unique (h : s.Holds L) (h' : s.Holds L') : L = L' :=
  Ledger.ext_get? fun id => (h.task?_eq id).symm.trans (h'.task?_eq id)

/-- The tasks of a store are those of the ledger that it keeps. -/
lemma Holds.tasks_perm (h : s.Holds L) : s.tasks.Perm L.tasks.values := by
  suffices hlist : (s.tasks.map Task.id).Nodup ∧ ∀ t, t ∈ s.tasks ↔ L.get? t.id = some t by
    refine (List.perm_ext_iff_of_nodup (.of_map Task.id hlist.1) L.nodup_tasks).mpr fun t => ?_
    rw [hlist.2, Ledger.mem_values]
  cases s with
  | table tb =>
      obtain ⟨ts, hrows, hid, hmem⟩ := h
      have htasks : tasks (table tb) = ts := by
        rw [tasks, hrows, List.filterMap_map]
        simp [Function.comp_def, Row.decode_ofTask, Except.toOption]
      rw [htasks]
      exact ⟨hid, hmem⟩
  | keyspace s =>
      obtain ⟨lost, hkeeps⟩ := h
      have hids : ∀ id, id ∈ s.shared.keyspace.members s.layout.allKey ↔
          ∃ t, s.shared.keyspace.task? s.layout id = some t ∧ true = true := by
        simpa using hkeeps.keyspace.indexed.all
      refine ⟨?_, fun t => ?_⟩
      · rw [tasks, hkeeps.keyspace.map_id_filterMap fun id hid => ?_]
        · exact SortedMap.nodup_keys _
        · obtain ⟨t, ht, -⟩ := (hids id).mp hid
          exact ⟨t, ht⟩
      · rw [tasks, hkeeps.keyspace.mem_filterMap (p := fun _ => true) hids]
        simp

end TaskStore

/-! ### Runs -/

namespace Service

open TimedServiceCall

variable {s : Service TaskStore} {history : List TimedServiceCall} {e : TimedServiceCall}
  {limit : UInt32} {L M L' : Ledger} {r r' : Except StoreError Outcome} {T : Totals}

/-- No new task of a run is refused by the store. -/
def Unrefused (s : Service TaskStore) (history : List TimedServiceCall) : Prop :=
  ∀ p e q, history = p ++ e :: q →
    ¬ (s.after p).store.Refuses e.id e.now (e.call.toCall s.settings)

lemma Unrefused.append_singleton (h : s.Unrefused (history ++ [e])) :
    s.Unrefused history ∧ ¬ (s.after history).store.Refuses e.id e.now (e.call.toCall s.settings) :=
  ⟨fun p e' q heq => h p e' (q ++ [e]) (by simp [heq]), h history e [] rfl⟩

/-- Where no batch is refused but by its guards, no new task is. -/
lemma unrefused_of_neverRefuses (h : s.store.NeverRefuses) : s.Unrefused history := by
  have hafter : ∀ p, (s.after p).store.NeverRefuses := by
    intro p
    induction p using List.reverseRecOn with
    | nil => exact h
    | append_singleton p e ih =>
        rw [after_append_singleton]
        exact store_serve (fun _ id now c hs => hs.perform id now c) ih e
  exact fun p e _ _ => (hafter p).not_refuses e.id e.now _

/-- The sweep of a dequeue keeps the balance. -/
lemma Reaches.balance_prepared (h : s.Reaches limit history L) (hbalance : Balance T L.tasks.values)
    (hholds : ((s.after history).prepared e).store.Holds M) :
    Balance (T + (s.after history).sweepTallied e) M.tasks.values := by
  obtain ⟨id, swept, now, call⟩ := e
  -- a call without a sweep finds the tasks as they were
  have hstill : (s.after history).store.Holds M → Balance (T + 0) M.tasks.values := by
    intro hsame
    rwa [hsame.unique h.holds, add_zero]
  cases call with
  | dequeue worker =>
      simp only [sweepTallied, prepared] at hholds ⊢
      split_ifs at hholds ⊢ with hblank
      · exact hstill hholds
      · obtain ⟨r, M', hanswer, -, hstore, hmay⟩ := serves_recover h.holds id swept
        obtain rfl := hholds.unique hstore
        rw [hanswer, ServiceCall.tally_mapError]
        have hsweep : L.May id swept (ServiceCall.recover.toCall (s.after history).settings) r M :=
          hmay
        exact hsweep.balance hbalance h.regular (fun he => by cases he) fun t he => by cases he
  | _ => exact hstill hholds

/-- A new task that a run returns and that is not refused is stored. -/
lemma Step.stored (h : s.Step limit history e L M L' r r')
    (hrefused : ¬ (s.after history).store.Refuses e.id e.now (e.call.toCall s.settings))
    {t : Task} (he : e.call.isEnqueue = true) (ht : r' = .ok (.task t)) :
    L'.get? t.id = some t := by
  have hholds := h.reaches.holds
  have hanswer := h.answer
  have hfresh := h.fresh (by rw [ServiceCall.isEnqueue_toCall, he])
  have hbefore := h.holds
  rw [after_append_singleton] at hholds
  obtain ⟨id, swept, now, call⟩ := e
  cases call with
  | enqueue type payload metadata =>
      obtain ⟨hserved, hstore, -⟩ := whenOk_eq
        ((s.after history).lift
          (Storage.enqueue (s.after history).store id now type payload metadata))
        (f := fun t s => (s.count .enqueued 1).note now .enqueued queueSubject [idDetail t])
        fun _ _ => ⟨rfl, rfl⟩
      have hanswer' : (((s.after history).lift (Storage.enqueue (s.after history).store id now type
          payload metadata)).1.map .task : Except TaskError Outcome) = .ok (.task t) := by
        rw [← hserved]
        exact hanswer.trans (congrArg (Except.mapError _) ht)
      rw [lift, ← mapError_map, mapError_eq_ok] at hanswer'
      rw [← hholds.task?_eq, show ((s.after history).serve
          ⟨id, swept, now, .enqueue type payload metadata⟩).2.store
        = (Storage.enqueue (s.after history).store id now type payload metadata).2 from hstore]
      exact hbefore.stored_of_enqueue hfresh hanswer' hrefused
  | _ => simp [ServiceCall.isEnqueue] at he

/-- From a balance every call of a run leads to a balance. -/
lemma Step.balance (h : s.Step limit history e L M L' r r') (hreach : s.Reaches limit history L)
    (hbalance : Balance T L.tasks.values)
    (hrefused : ¬ (s.after history).store.Refuses e.id e.now (e.call.toCall s.settings)) :
    Balance (T + (s.after history).tallied e) L'.tasks.values := by
  have hprepared := hreach.balance_prepared hbalance h.holds
  have hcall := h.call.balance hprepared h.regular
    (fun he => h.fresh (by rw [ServiceCall.isEnqueue_toCall, he])) fun t he => h.stored hrefused he
  rwa [← ServiceCall.tally_mapError e.call r' StoreError.toTaskError, ← h.answer, add_assoc]
    at hcall

/-- After every run on which no new task is refused, the counters hold totals that balance with the
tasks. -/
lemma reaches_balance (hempty : s.store.IsEmpty) (hmetrics : s.metrics = .memory .empty)
    (hids : (createdIds history).Nodup) (hrefused : s.Unrefused history) :
    ∃ L T, s.Reaches 4294967295 history L ∧ (s.after history).metrics.Counts T ∧
      Balance T L.tasks.values := by
  induction history using List.reverseRecOn with
  | nil =>
      refine ⟨.empty, 0, ⟨hempty.holds, rfl, Ledger.regular_empty, fun ht => by simp at ht⟩, ?_,
        .empty⟩
      exact hmetrics ▸ MetricsSink.counts_empty
  | append_singleton history e ih =>
      obtain ⟨hbefore, hnew⟩ := nodup_created_append_singleton hids
      obtain ⟨hrefused, he⟩ := hrefused.append_singleton
      obtain ⟨L, T, hreach, hcounts, hbalance⟩ := ih hbefore hrefused
      obtain ⟨_, L', _, _, hstep⟩ := hreach.next (by decide) (maxAttempts_le _) hnew
      refine ⟨L', _, hstep.reaches, ?_, hstep.balance hreach hbalance he⟩
      rw [after_append_singleton]
      exact counts_serve hcounts e

/-- From a store of either kind without tasks and counters that start anew, whatever the settings,
the clock and the reads and commits of the store do: after every run that names each new task anew,
and in which none is refused, the counters balance with the stored tasks, as long as these and their
attempts are not too many for 64 bits. -/
theorem balance_after (hempty : s.store.IsEmpty) (hmetrics : s.metrics = .memory .empty)
    (history : List TimedServiceCall) (hids : (createdIds history).Nodup)
    (hrefused : s.Unrefused history)
    (htasks : (s.after history).store.tasks.length < 2 ^ 64)
    (hattempts : ((s.after history).store.tasks.map fun t => t.attempts.toNat).sum < 2 ^ 64) :
    (∃ c, (s.after history).metrics = .memory c ∧
      Balance (fun counter => (c.value counter.name).toNat) (s.after history).store.tasks) ∧
    ((s.after history).store.tasks.map Task.id).Nodup ∧
    ∀ id t, (s.after history).store.task? id = some t ↔
      t ∈ (s.after history).store.tasks ∧ t.id = id := by
  obtain ⟨L, T, hreach, ⟨c, hc, hvalue⟩, hbalance⟩ :=
    reaches_balance hempty hmetrics hids hrefused
  have hperm := hreach.holds.tasks_perm
  have hstored := hbalance.perm hperm.symm
  -- no total exceeds the number of tasks or that of their attempts
  have hsmall : ∀ counter, T counter < 2 ^ 64 := by
    have hcompleted := List.countP_le_length (p := fun t : Task => t.status = .completed)
      (l := (s.after history).store.tasks)
    have hfailed := List.countP_le_length (p := fun t : Task => t.status = .failed)
      (l := (s.after history).store.tasks)
    obtain ⟨henqueued, hdispatched, hcompleted', hfailed', hleased⟩ := hstored
    intro counter
    cases counter <;> omega
  have hexact : (fun counter : Counter => (c.value counter.name).toNat) = T := by
    funext counter
    rw [hvalue, UInt64.toNat_ofNat_of_lt' (hsmall counter)]
  refine ⟨⟨c, hc, hexact ▸ hstored⟩, ?_, fun id t => ?_⟩
  · exact (hperm.map Task.id).nodup_iff.mpr Ledger.nodup_values
  · rw [hreach.holds.task?_eq, hperm.mem_iff, Ledger.mem_values]
    refine ⟨fun ht => ?_, ?_⟩
    · obtain rfl := Ledger.id_of_get? ht
      exact ⟨ht, rfl⟩
    · rintro ⟨ht, rfl⟩
      exact ht

/-- A queue over a keyspace whose leases expire at once and are the only ones of their tasks. A
commit breaks. -/
def countingQueue : Service TaskStore :=
  ⟨.keyspace (.emptyUnder "queue" ⟨[], [(4, .guarded), (1, .broken)], []⟩), ⟨-1, 1⟩,
    .memory .empty, .none⟩

/-- The second dequeue fails the lease of the first in its sweep, and cannot write one of its
own. -/
def countedHistory : List TimedServiceCall :=
  [⟨"a", 9, 9, .enqueue "mail" "hello" ∅⟩, ⟨"b", 9, 9, .enqueue "mail" "" ∅⟩,
    ⟨"", 8, 8, .dequeue "v"⟩, ⟨"", 8, 8, .dequeue "v"⟩, ⟨"", 9, 9, .dequeue "w"⟩]

theorem balance_countedHistory :
    (∃ c, (countingQueue.after countedHistory).metrics = .memory c ∧
      Balance (fun counter => (c.value counter.name).toNat)
        (countingQueue.after countedHistory).store.tasks) ∧
    ((countingQueue.after (countedHistory.take 3)).serve ⟨"", 8, 8, .dequeue "v"⟩).1
        = .error (.unavailable "connection reset") ∧
      (countingQueue.after countedHistory).store.tasks.map (fun t => (t.status, t.attempts))
        = [(.failed, 1), (.inProgress, 1)] := by
  have hnever : countingQueue.store.NeverRefuses := by
    change ∀ e ∈ [(4, CommitFate.guarded), (1, .broken)], e.2 ≠ .refused
    decide
  refine ⟨(balance_after (.keyspace "queue" rfl) rfl countedHistory (by decide)
    (unrefused_of_neverRefuses hnever) ?_ ?_).1, ?_, ?_⟩
  all_goals decide +kernel

end Service

end LeaseQueue
