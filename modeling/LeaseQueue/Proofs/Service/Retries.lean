/-
No task is tried more often than the settings allow.

* `Task.Changes.failed_sweep`, `Ledger.May.failed_report`: a task that a sweep fails has used all
  its attempts;
* `Service.BoundedRetries`: what holds after a run, of the stored tasks, of the tasks leased in the
  run and of the next sweep;
* `Service.boundedRetries_after`: it holds after every run on a store of either kind, whatever
  fails.
-/
import LeaseQueue.Proofs.Service.History

namespace LeaseQueue

variable {limit : UInt32} {now : Timestamp} {maxAge : Int64} {r : Except StoreError Outcome}

/-! ### Failed tasks -/

namespace Task

variable {t t' : Task}

/-- A lease within the limit that has used its last attempt has used them all. -/
lemma Within.attempts_eq (h : t.Within limit) (hx : t.attemptsExhausted limit = true) :
    t.attempts = limit := by
  rw [attemptsExhausted, decide_eq_true_eq] at hx
  exact UInt32.le_antisymm h.attempts_le hx

/-- A task that a sweep fails has used all its attempts. -/
lemma Changes.failed_sweep (h : Changes now (.recover maxAge limit) r t t') (ht : t.Within limit)
    (hs : t.status ≠ .failed) (hs' : t'.status = .failed) : t'.attempts = limit := by
  cases h with
  | kept => exact absurd hs' hs
  | expired maxAttempts report ho =>
      rw [expire] at hs' ⊢
      split_ifs at hs' ⊢ with hx
      · exact ht.attempts_eq hx
      · simp [requeue] at hs'

end Task

/-- A task that a sweep reports as failed has used all its attempts. -/
lemma Ledger.May.failed_report {L L' : Ledger} {id : String} {leases : List Task}
    {report : SweepReport} (h : L.May id now (.recover maxAge limit) (.ok (.swept report)) L')
    (hreg : L.Regular limit leases) {t : Task} (ht : t ∈ report.failed) : t.attempts = limit := by
  obtain ⟨t, hstored, -, hx, rfl⟩ := h.failed_swept ht
  exact (hreg.within hstored).attempts_eq hx

/-! ### Runs -/

namespace Service

open TimedServiceCall

variable {s : Service TaskStore} {history : List TimedServiceCall}

/-- What a run has left, and the sweep that may come next, with which every dequeue begins. -/
structure BoundedRetries (s : Service TaskStore) (history : List TimedServiceCall) : Prop where
  within : ∀ id t, (s.after history).store.task? id = some t → t.Within s.settings.maxAttempts
  leases_le : ∀ id,
    (s.leases history).countP (fun t => t.id = id) ≤ s.settings.maxAttempts.toNat
  /-- The task that a dequeue leases after its sweep has room for one more attempt. -/
  attempts_succ : ∀ now id t, ((s.after history).recover now).2.store.task? id = some t →
    t.status = .pending →
      ∀ worker now', (t.claim worker now').attempts.toNat = t.attempts.toNat + 1
  reported : ∀ now report, ((s.after history).recover now).1 = .ok report →
    ∀ t ∈ report.failed, t.attempts = s.settings.maxAttempts
  failed : ∀ now id t t', (s.after history).store.task? id = some t →
    ((s.after history).recover now).2.store.task? id = some t' →
      t.status ≠ .failed → t'.status = .failed → t'.attempts = s.settings.maxAttempts

/-- From a store of either kind without tasks, whatever its reads and commits do, and wherever the
clock stands, every run that names each new task anew keeps to the number of attempts in the
settings. -/
theorem boundedRetries_after (hempty : s.store.IsEmpty) (hmax : 1 ≤ s.settings.maxAttempts)
    (history : List TimedServiceCall) (hids : (createdIds history).Nodup) :
    s.BoundedRetries history := by
  obtain ⟨L, hreach⟩ := reaches hempty hmax UInt32.le_rfl hids
  have hholds := hreach.holds
  have hsweep : ∀ now, ∃ r M, (mapResult Outcome.swept ((s.after history).recover now)).1
        = r.mapError StoreError.toTaskError ∧
      ((s.after history).recover now).2.store.Holds M ∧
        L.May "" now (.recover s.settings.visibilityTimeout s.settings.maxAttempts) r M := by
    intro now
    obtain ⟨r, M, hanswer, -, hstore, hmay⟩ := serves_recover hholds "" now
    rw [hreach.settings] at hmay
    exact ⟨r, M, hanswer, hstore, hmay⟩
  refine ⟨fun id t ht => ?_, fun id => ?_, fun now id t ht hs worker now' => ?_,
    fun now report hreport t ht => ?_, fun now id t t' ht ht' hs hs' => ?_⟩
  · rw [hholds.task?_eq] at ht
    exact hreach.regular.within ht
  · cases ht : L.get? id with
    | none =>
        rw [hreach.regular.unleased ht]
        exact Nat.zero_le _
    | some t =>
        rw [hreach.regular.counted ht]
        exact UInt32.le_iff_toNat_le.mp (hreach.regular.within ht).attempts_le
  · obtain ⟨r, M, -, hstore, hmay⟩ := hsweep now
    rw [hstore.task?_eq] at ht
    exact ((hreach.regular.sweep hmax UInt32.le_rfl hmay).within ht).toNat_claim hs worker now'
  · obtain ⟨r, M, hanswer, -, hmay⟩ := hsweep now
    rcases hrecover : (s.after history).recover now with ⟨answer, s'⟩
    rw [hrecover] at hreport hanswer
    obtain rfl : answer = .ok report := hreport
    obtain rfl : r = .ok (.swept report) := by
      cases r with
      | error e => simp [mapResult, Except.map, Except.mapError] at hanswer
      | ok o => exact congrArg Except.ok (Except.ok.inj hanswer).symm
    exact hmay.failed_report hreach.regular ht
  · obtain ⟨r, M, -, hstore, hmay⟩ := hsweep now
    rw [hholds.task?_eq] at ht
    rw [hstore.task?_eq] at ht'
    obtain ⟨t'', ht'', hchanges⟩ := hmay.changes (by simp [Call.isEnqueue]) ht
    obtain rfl := Option.some.inj (ht''.symm.trans ht')
    exact hchanges.failed_sweep (hreach.regular.within ht) hs hs'

/-- A queue over a keyspace with two attempts, whose leases expire at once. A read breaks, and later
a commit. -/
def faultyQueue : Service TaskStore :=
  ⟨.keyspace (.emptyUnder "queue" ⟨[(1, false), (1, true)], [(3, .guarded), (1, .broken)], []⟩),
    ⟨-1, 2⟩, .none, .none⟩

/-- One task is leased twice. In between a sweep cannot read it, and a lease of it cannot be
written. -/
def exhaustingHistory : List TimedServiceCall :=
  [⟨"a", 9, 9, .enqueue "mail" "hello" ∅⟩, ⟨"", 8, 8, .dequeue "v"⟩, ⟨"", 8, 8, .dequeue "v"⟩,
    ⟨"", 8, 7, .dequeue "v"⟩, ⟨"", 8, 7, .dequeue "w"⟩]

theorem boundedRetries_exhaustingHistory :
    faultyQueue.store.IsEmpty ∧ 1 ≤ faultyQueue.settings.maxAttempts ∧
      (createdIds exhaustingHistory).Nodup ∧ faultyQueue.BoundedRetries exhaustingHistory ∧
      (faultyQueue.leases exhaustingHistory).map Task.attempts = [1, 2] ∧
      ((faultyQueue.after exhaustingHistory).recover 8).1.toOption.map
        (fun report => report.failed.map Task.attempts) = some [2] := by
  have hempty : faultyQueue.store.IsEmpty := .keyspace "queue" rfl
  have hmax : 1 ≤ faultyQueue.settings.maxAttempts := by decide
  have hids : (createdIds exhaustingHistory).Nodup := by decide
  refine ⟨hempty, hmax, hids, boundedRetries_after hempty hmax exhaustingHistory hids, ?_, ?_⟩
  all_goals decide +kernel

end Service

end LeaseQueue
