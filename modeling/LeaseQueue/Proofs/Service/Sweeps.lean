/-
A sweep does what it reports.

* `SweepReport.Ended`, `SweepReport.Tells`: a report tells what became of the stored tasks between
  two points in time; `Ledger.tells_foldl_expireOne`: so does the report of a sweep over any of the
  overdue leases;
* `TaskStore.Holds.recover`: a sweep of a store ends some of the overdue leases, whatever fails, and
  all of them if nothing fails;
* `TaskStore.IsEmpty.regular_replay`: a history of calls leads from no tasks to regular ones;
* `TaskStore.Finds`, `TaskStore.Holds.finds`: the look-up of a sweep finds every overdue task;
* `TaskStore.tells_recover`: after every history, a sweep does what it reports, and what it leaves
  out the next one finds.
-/
import LeaseQueue.Proofs.Ledger.Consistency
import LeaseQueue.Proofs.Service.History
import LeaseQueue.Proofs.Service.OnLedger

namespace LeaseQueue

open Storage

/-! ### Reports -/

/-- A task whose lease has ended waits again, unless its attempts are used up. -/
lemma Task.expire_pending_iff {t : Task} {maxAttempts : UInt32} {now : Timestamp} :
    (t.expire maxAttempts now).status = .pending ↔ t.attempts < maxAttempts := by
  rw [expire, attemptsExhausted, ← UInt32.not_le]
  by_cases h : maxAttempts ≤ t.attempts <;> simp [h, exhaust, requeue]

namespace SweepReport

/-- A sweep ended the lease of a stored task and reports it as it is stored now. -/
structure Ended (r : SweepReport) (q : QueueSettings) (now : Timestamp) (t t' : Task) : Prop where
  expired : q.Expired now t
  swept : t' = q.sweep now t
  requeued : t' ∈ r.requeued ↔ t.attempts < q.maxAttempts
  failed : t' ∈ r.failed ↔ q.maxAttempts ≤ t.attempts
  owner : ∃ w, t.worker = some w ∧ r.previousWorker t.id = some w

/-- A report tells what a sweep did to the stored tasks. -/
structure Tells (r : SweepReport) (q : QueueSettings) (now : Timestamp)
    (before after : String → Option Task) : Prop where
  unreported : ∀ id, (∀ t ∈ r.requeued ++ r.failed, t.id ≠ id) → after id = before id
  reported : ∀ t' ∈ r.requeued ++ r.failed,
    after t'.id = some t' ∧ ∃ t, before t'.id = some t ∧ r.Ended q now t t'
  sorted_requeued : r.requeued.Pairwise Task.Before
  sorted_failed : r.failed.Pairwise Task.Before
  owners : ∀ id w, r.previousWorker id = some w → ∃ t ∈ r.requeued ++ r.failed, t.id = id

end SweepReport

namespace Ledger

variable {L : Ledger} {q : QueueSettings} {now : Timestamp} {ts : List Task}

/-- The report of a sweep holds the ended leases. -/
lemma mem_sort_foldl_expireOne {t' : Task} :
    t' ∈ (ts.foldl (expireOne now q.maxAttempts) (.empty, L)).1.sort.requeued
        ++ (ts.foldl (expireOne now q.maxAttempts) (.empty, L)).1.sort.failed ↔
      ∃ t ∈ ts, t.expire q.maxAttempts now = t' := by
  rw [List.mem_append, SweepReport.sort, Task.mem_sort, Task.mem_sort, requeued_foldl_expireOne,
    failed_foldl_expireOne, SweepReport.empty, List.nil_append, List.nil_append, List.mem_filter,
    List.mem_filter, ← and_or_left, List.mem_map]
  refine and_iff_left ?_
  by_cases hs : t'.status = .pending <;> simp [hs]

/-- The worker reported for an id is the owner of the lease under it. -/
lemma previousWorker_foldl_expireOne (hid : (ts.map Task.id).Nodup) (id : String) :
    (ts.foldl (expireOne now q.maxAttempts) (.empty, L)).1.sort.previousWorker id
      = (ts.find? fun t => t.id = id).bind Task.worker := by
  rw [SweepReport.previousWorker, SweepReport.sort, previousWorkers_foldl_expireOne,
    get?_foldl_owner hid, SweepReport.empty, SortedMap.get?_empty, Option.or_none]

/-- A sweep over overdue leases, each with an owner, does what it reports. -/
theorem tells_foldl_expireOne (hwf : ∀ {id t}, L.get? id = some t → t.WellFormed)
    (hid : (ts.map Task.id).Nodup) (hts : ∀ t ∈ ts, L.get? t.id = some t ∧ q.Expired now t) :
    (ts.foldl (expireOne now q.maxAttempts) (.empty, L)).1.sort.Tells q now L.get?
      (ts.foldl (expireOne now q.maxAttempts) (.empty, L)).2.get? where
  unreported id hne := by
    rw [get?_foldl_expireOne hid]
    cases hfind : ts.find? fun t => t.id = id with
    | none => rfl
    | some t =>
        obtain ⟨ht, rfl⟩ := mem_of_find?_id hfind
        exact absurd (expire_id t) (hne _ (mem_sort_foldl_expireOne.mpr ⟨t, ht, rfl⟩))
  reported t' ht' := by
    obtain ⟨t, ht, rfl⟩ := mem_sort_foldl_expireOne.mp ht'
    obtain ⟨hget, hx⟩ := hts t ht
    obtain ⟨w, hw⟩ := Option.ne_none_iff_exists'.mp ((hwf hget).worker.mpr hx.1)
    have hmem : t.expire q.maxAttempts now ∈ ts.map fun t => t.expire q.maxAttempts now :=
      List.mem_map_of_mem ht
    rw [expire_id]
    refine ⟨?_, t, hget, hx, (QueueSettings.sweep_of_expired hx).symm, ?_, ?_, w, hw, ?_⟩
    · rw [get?_foldl_expireOne hid, find?_id hid ht]
    · rw [SweepReport.sort, Task.mem_sort, requeued_foldl_expireOne, SweepReport.empty,
        List.nil_append, List.mem_filter, and_iff_right hmem, decide_eq_true_eq,
        Task.expire_pending_iff]
    · rw [SweepReport.sort, Task.mem_sort, failed_foldl_expireOne, SweepReport.empty,
        List.nil_append, List.mem_filter, and_iff_right hmem, decide_eq_true_eq, ne_eq,
        Task.expire_pending_iff, UInt32.not_lt]
    · rw [previousWorker_foldl_expireOne hid, find?_id hid ht, Option.bind_some, hw]
  sorted_requeued := by
    rw [SweepReport.sort, requeued_foldl_expireOne]
    exact Task.pairwise_before_sort (nodup_filter_expire hid _)
  sorted_failed := by
    rw [SweepReport.sort, failed_foldl_expireOne]
    exact Task.pairwise_before_sort (nodup_filter_expire hid _)
  owners id w hw := by
    rw [previousWorker_foldl_expireOne hid, Option.bind_eq_some_iff] at hw
    obtain ⟨t, hfind, -⟩ := hw
    obtain ⟨ht, rfl⟩ := mem_of_find?_id hfind
    exact ⟨_, mem_sort_foldl_expireOne.mpr ⟨t, ht, rfl⟩, expire_id t⟩

end Ledger

/-! ### Stores of either kind -/

namespace TaskStore

/-- The look-up of a sweep finds the id of a lease that was last refreshed before a time. -/
def Finds (threshold : Timestamp) (id : String) : TaskStore → Prop
  | table tb => ∃ r ∈ tb.overdue threshold, r.id = .text id
  | keyspace s => id ∈ (s.shared.keyspace.scoredSet s.layout.inProgressKey).below threshold

/-- Every request of a sweep is answered, and no batch is refused. A table makes no requests. -/
def SweepsUndisturbed (now : Timestamp) (q : QueueSettings) : TaskStore → Prop
  | table _ => True
  | keyspace s =>
    Stage.Undisturbed (s.transcript "" now (.recover q.visibilityTimeout q.maxAttempts))

/-- What a sweep reports is what it does to a store. -/
structure Sweeps (now : Timestamp) (q : QueueSettings) (s : TaskStore) (r : SweepReport)
    (s' : TaskStore) : Prop where
  tells : r.Tells q now s.task? s'.task?
  /-- The next sweep finds an expired lease that is not reported, which is as it was. -/
  left : ∀ id t, s.task? id = some t → q.Expired now t →
    (∀ t' ∈ r.requeued ++ r.failed, t'.id ≠ id) → s'.task? id = some t ∧
      ∀ threshold, t.isOverdue threshold = true → s'.Finds threshold id
  complete : s.SweepsUndisturbed now q → ∀ id t, s.task? id = some t → q.Expired now t →
    ∃ t' ∈ r.requeued ++ r.failed, t'.id = id

variable {s : TaskStore} {L : Ledger} {history : List TimedCall}

/-- The look-up of a sweep finds every overdue task. -/
lemma Holds.finds (h : s.Holds L) {t : Task} (ht : L.get? t.id = some t) {threshold : Timestamp}
    (ho : t.isOverdue threshold = true) : s.Finds threshold t.id := by
  cases s with
  | table tb =>
      refine ⟨Row.ofTask t, ?_, rfl⟩
      rw [Table.Holds.overdue h]
      exact List.mem_map_of_mem (Ledger.mem_select.mpr ⟨ht, ho⟩)
  | keyspace s =>
      obtain ⟨lost, hkeeps⟩ := h
      obtain ⟨ts, hbelow, -, hts⟩ := hkeeps.keyspace.overdue_tasks threshold
      rw [Finds, hbelow]
      exact List.mem_map_of_mem ((hts t).mpr ⟨ht, ho⟩)

/-- A sweep never fails. It ends some of the overdue leases, and all of them if nothing fails. -/
theorem Holds.recover (h : s.Holds L) (now : Timestamp) (q : QueueSettings) :
    ∃ ts : List Task, (ts.map Task.id).Nodup ∧
      (∀ t ∈ ts, L.get? t.id = some t ∧ q.Expired now t) ∧
      (Storage.recover s now q.visibilityTimeout q.maxAttempts).1
        = .ok (ts.foldl (Ledger.expireOne now q.maxAttempts) (.empty, L)).1.sort ∧
      (Storage.recover s now q.visibilityTimeout q.maxAttempts).2.Holds
        (ts.foldl (Ledger.expireOne now q.maxAttempts) (.empty, L)).2 ∧
      (s.SweepsUndisturbed now q → ∀ t, L.get? t.id = some t → q.Expired now t → t ∈ ts) := by
  simp only [← QueueSettings.isOverdue_iff]
  cases s with
  | table tb =>
      obtain ⟨hresult, hstore⟩ := Table.Holds.recover h now q.visibilityTimeout q.maxAttempts
      have hpair : (L.overdue (Timestamp.before now q.visibilityTimeout)).Pairwise
          (fun a b => Task.le a b = true) := Ledger.pairwise_select _
      refine ⟨L.overdue (Timestamp.before now q.visibilityTimeout), Ledger.nodup_select _,
        fun t ht => Ledger.mem_select.mp ht, ?_, hstore,
        fun _ t ht ho => Ledger.mem_select.mpr ⟨ht, ho⟩⟩
      rw [Ledger.sort_foldl_expireOne L hpair]
      exact hresult
  | keyspace s =>
      obtain ⟨lost, hkeeps⟩ := h
      obtain ⟨ts, hid, hts, hresult, hkeeps', hall⟩ :=
        hkeeps.perform_recover "" now q.visibilityTimeout q.maxAttempts
      refine ⟨ts, hid, hts, ?_, ⟨lost, hkeeps'⟩, hall⟩
      exact Service.map_injective (fun _ _ => Outcome.swept.inj) hresult

/-- A history of calls leads from no tasks to regular ones, under ids that it may create. -/
lemma IsEmpty.regular_replay (h : s.IsEmpty) (hids : (TimedCall.createdIds history).Nodup)
    (howner : ∀ e ∈ history, e.call ≠ .dequeue "") :
    ∃ L leases, (replay s history).2.Holds L ∧ L.Regular 4294967295 leases ∧
      L.CreatedIn history := by
  induction history using List.reverseRecOn with
  | nil => exact ⟨.empty, [], h.holds, Ledger.regular_empty, .empty⟩
  | append_singleton history e ih =>
      obtain ⟨hbefore, hfresh⟩ := nodup_created_append_singleton hids
      obtain ⟨L, leases, hholds, hregular, hcreated⟩ := ih hbefore fun e' he' =>
        howner e' (List.mem_append_left _ he')
      have hnew := hcreated.fresh hfresh
      obtain ⟨L', hholds', hmay⟩ :=
        hholds.perform e.id e.now e.call hnew (howner e (by simp))
      rw [replay_append_singleton]
      exact ⟨L', _, hholds', hregular.step (by decide) hmay hnew fun _ _ _ =>
        Service.maxAttempts_le _, hcreated.step hmay⟩

/-- After every history of leases with owners, whatever reads and commits fail, a sweep of a store
that started without tasks does what it reports.

The history is one of whole calls, one after the other, and so is the sweep: no other client makes
a request in between. Sweeps among other clients are the subject of `Proofs/Clients/Leases`. -/
theorem sweeps_recover (hempty : s.IsEmpty) (history : List TimedCall)
    (hids : (TimedCall.createdIds history).Nodup) (howner : ∀ e ∈ history, e.call ≠ .dequeue "")
    (now : Timestamp) (q : QueueSettings) :
    ∃ r, (Storage.recover (replay s history).2 now q.visibilityTimeout q.maxAttempts).1 = .ok r ∧
      Sweeps now q (replay s history).2 r
        (Storage.recover (replay s history).2 now q.visibilityTimeout q.maxAttempts).2 := by
  obtain ⟨L, leases, hholds, hregular, -⟩ := hempty.regular_replay hids howner
  obtain ⟨ts, hid, hts, hresult, hholds', hall⟩ := hholds.recover now q
  have htells := Ledger.tells_foldl_expireOne hregular.wellFormed hid hts
  rw [← funext hholds.task?_eq, ← funext hholds'.task?_eq] at htells
  refine ⟨_, hresult, htells, fun id t ht hx hne => ?_, fun hundisturbed id t ht hx => ?_⟩
  · have hafter := (htells.unreported id hne).trans ht
    refine ⟨hafter, fun threshold ho => ?_⟩
    rw [hholds'.task?_eq] at hafter
    obtain rfl := Ledger.id_of_get? hafter
    exact hholds'.finds hafter ho
  · rw [hholds.task?_eq] at ht
    obtain rfl := Ledger.id_of_get? ht
    exact ⟨_, Ledger.mem_sort_foldl_expireOne.mpr ⟨t, hall hundisturbed t ht hx, rfl⟩,
      Ledger.expire_id t⟩

/-- Three tasks are leased, the first of them for the second time. -/
def releasedHistory : List TimedCall :=
  [⟨"a", 1, .enqueue "mail" "hello" ∅⟩, ⟨"b", 2, .enqueue "mail" "hello" ∅⟩,
    ⟨"c", 3, .enqueue "mail" "hello" ∅⟩, ⟨"", 10, .dequeue "w"⟩, ⟨"", 20, .recover 5 2⟩,
    ⟨"", 30, .dequeue "w"⟩, ⟨"", 30, .dequeue "v"⟩, ⟨"", 30, .dequeue "u"⟩]

/-- The commit breaks that is to end the lease of the last task. -/
def brokenSweep : KeyspaceStore := .emptyUnder "queue" ⟨[], [(10, .guarded), (1, .broken)], []⟩

/-- A sweep fails the first task, requeues the second, and leaves the third alone. -/
theorem sweeps_releasedHistory :
    ∃ r, (Storage.recover (replay (keyspace brokenSweep) releasedHistory).2 40 5 2).1 = .ok r ∧
      Sweeps 40 ⟨5, 2⟩ (replay (keyspace brokenSweep) releasedHistory).2 r
        (Storage.recover (replay (keyspace brokenSweep) releasedHistory).2 40 5 2).2 ∧
      r.failed.map Task.id = ["a"] ∧ r.requeued.map Task.id = ["b"] := by
  obtain ⟨r, hr, hsweeps⟩ := sweeps_recover (s := keyspace brokenSweep) (.keyspace "queue" rfl)
    releasedHistory (by decide) (by decide) 40 ⟨5, 2⟩
  have hids : (Storage.recover (replay (keyspace brokenSweep) releasedHistory).2 40 5 2).1.map
      (fun r => (r.failed.map Task.id, r.requeued.map Task.id)) = .ok (["a"], ["b"]) := by
    decide +kernel
  rw [hr] at hids
  exact ⟨r, hr, hsweeps, Prod.mk.inj (Except.ok.inj hids)⟩

end TaskStore

end LeaseQueue
