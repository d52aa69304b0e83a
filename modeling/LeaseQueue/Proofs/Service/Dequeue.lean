/-
What a dequeue answers and leaves, told by the tasks before it.

* `Service.Idles`, `Service.LeasesFirst`: the two ways in which a dequeue ends;
* `Service.Mirrors.dequeue_cases`: a service that keeps the tasks of a ledger ends it so;
* `Service.dequeue_after`: so does every dequeue after every run, on a store of either kind.
-/
import LeaseQueue.Proofs.Service.OnLedger

namespace LeaseQueue.Service

/-- No task may be leased, and a dequeue answers so after its sweep. -/
structure Idles (s : Service TaskStore) (now : Timestamp) (worker : String) : Prop where
  none_leasable : ∀ id t, s.store.task? id = some t → ¬ s.settings.Leasable now t
  answer : (s.dequeue now worker).1 = .ok none
  stored : ∀ id,
    (s.dequeue now worker).2.store.task? id = (s.store.task? id).map (s.settings.sweep now)

/-- A dequeue leases the first of the tasks that may be leased, and sweeps the others. -/
structure LeasesFirst (s : Service TaskStore) (now : Timestamp) (worker : String) (t t' : Task) :
    Prop where
  before : s.store.task? t.id = some t
  leasable : s.settings.Leasable now t
  first : ∀ id u, s.store.task? id = some u → s.settings.Leasable now u →
    t.createdAt < u.createdAt ∨ t.createdAt = u.createdAt ∧ t.id ≤ u.id
  lease : t' = { t with status := .inProgress, worker := some worker, attempts := t.attempts + 1,
                        updatedAt := now }
  attempts : t'.attempts.toNat = t.attempts.toNat + 1
  answer : (s.dequeue now worker).1 = .ok (some t')
  stored : ∀ id, (s.dequeue now worker).2.store.task? id
    = if id = t.id then some t' else (s.store.task? id).map (s.settings.sweep now)

variable {s : Service TaskStore} {m : Service Ledger} {now : Timestamp} {worker : String}

/-- Attempts that fit before a lease fit after it. -/
lemma toNat_attempts_succ {t : Task} (ht : t.Within 4294967295) {q : QueueSettings}
    (h : q.Leasable now t) : (t.attempts + 1).toNat = t.attempts.toNat + 1 := by
  have hlt : t.attempts < 4294967295 := by
    obtain hs | ⟨-, hlt⟩ := h
    · exact ht.waiting hs
    · exact UInt32.lt_of_lt_of_le hlt (maxAttempts_le _)
  have hnat : t.attempts.toNat < 4294967295 := UInt32.lt_iff_toNat_lt.mp hlt
  rw [UInt32.toNat_add, UInt32.toNat_one]
  omega

/-- A dequeue of a service that keeps the tasks of a ledger ends in one of the two ways. -/
theorem Mirrors.dequeue_cases (h : s.Mirrors m)
    (hwithin : ∀ id t, m.store.get? id = some t → t.Within 4294967295)
    (hworker : Text.isBlank worker = false) :
    s.Idles now worker ∨ ∃ t t', s.LeasesFirst now worker t t' := by
  obtain ⟨hanswer, hmirrors⟩ := h.dequeue now worker
  obtain ⟨-, hswept, -⟩ := m.recover_ledger now
  obtain ⟨hleased, hstore, -⟩ := m.dequeue_ledger now hworker
  -- the ledger between the sweep and the lease
  generalize hM : (m.recover now).2.store = M at hswept hleased hstore
  have hget : ∀ id, M.get? id = (s.store.task? id).map (s.settings.sweep now) := by
    intro id
    rw [hswept, h.settings, Ledger.get?_recover, h.store.task?_eq]
  have hafter : ∀ id, (s.dequeue now worker).2.store.task? id
      = (M.dequeue now worker).2.get? id := by
    intro id
    rw [hmirrors.store.task?_eq]
    exact congrArg (fun L => L.get? id) hstore
  rw [hleased] at hanswer
  obtain ⟨hidle, hdequeue⟩ | ⟨u, hu, hpending, hfirst, hdequeue⟩ := M.dequeue_cases now worker
  · rw [hdequeue] at hanswer hafter
    refine .inl ⟨fun id t ht hleasable => ?_, hanswer, fun id => (hafter id).trans (hget id)⟩
    refine hidle id (s.settings.sweep now t) ?_ (QueueSettings.sweep_pending_iff.mpr hleasable)
    rw [hget, ht, Option.map_some]
  · rw [hdequeue] at hanswer hafter
    have hback := hu
    rw [hget, Option.map_eq_some_iff] at hback
    obtain ⟨t, ht, rfl⟩ := hback
    rw [QueueSettings.sweep_id] at ht
    have hleasable := QueueSettings.sweep_pending_iff.mp hpending
    have hw : t.Within 4294967295 := by
      rw [h.store.task?_eq] at ht
      exact hwithin _ t ht
    rw [QueueSettings.claim_sweep hleasable] at hanswer hafter
    refine .inr ⟨t, _, ht, hleasable, fun id v hv hvl => ?_, rfl, toNat_attempts_succ hw hleasable,
      hanswer, fun id => ?_⟩
    · have hle := hfirst id (s.settings.sweep now v) (by rw [hget, hv, Option.map_some])
        (QueueSettings.sweep_pending_iff.mpr hvl)
      rwa [Task.le_iff, QueueSettings.sweep_id, QueueSettings.sweep_id,
        QueueSettings.sweep_createdAt, QueueSettings.sweep_createdAt] at hle
    · rw [hafter, Ledger.get?_put, hget]

open TimedServiceCall

/-- From a fresh store, after every run that names each new task anew and under all settings, every
dequeue by a worker with a name leases the first task that waits or whose lease has expired with
attempts left, if there is one; expired leases end, and nothing else changes.

The run is one of whole calls, one after the other, and so is the dequeue: no other client makes a
request in between, and none is in the middle of a call. -/
theorem dequeue_after (hfresh : s.store.IsFresh) (history : List TimedServiceCall)
    (hids : (createdIds history).Nodup) (settings : QueueSettings) (now : Timestamp)
    (hworker : Text.isBlank worker = false) :
    { s.after history with settings }.Idles now worker ∨
      ∃ t t', { s.after history with settings }.LeasesFirst now worker t t' := by
  have hmirrors := mirrors_after hfresh hids
  have hregular := (hmirrors.reaches hfresh hids).regular
  have h : Mirrors { s.after history with settings }
      { s.onLedger.after history with settings } := ⟨hmirrors.store, rfl⟩
  exact h.dequeue_cases (fun id t ht => hregular.within ht) hworker

/-- A queue over a keyspace, with leases of ten milliseconds and two attempts. -/
def crowdedQueue : Service TaskStore := ⟨.keyspace (.empty "queue"), ⟨10, 2⟩, .none, .none⟩

/-- Task a is leased for the last time, b too but refreshed late, c is leased for the first time,
and d waits. -/
def crowdedHistory : List TimedServiceCall :=
  [⟨"a", 1, 1, .enqueue "mail" "" ∅⟩, ⟨"b", 2, 2, .enqueue "mail" "" ∅⟩,
    ⟨"", 5, 5, .dequeue "u"⟩, ⟨"", 6, 6, .dequeue "u"⟩, ⟨"c", 7, 7, .enqueue "mail" "" ∅⟩,
    ⟨"d", 9, 9, .enqueue "mail" "" ∅⟩, ⟨"", 15, 15, .heartbeat "b"⟩, ⟨"", 20, 20, .dequeue "u"⟩,
    ⟨"", 26, 26, .dequeue "v"⟩, ⟨"", 27, 27, .dequeue "u"⟩, ⟨"", 39, 39, .heartbeat "b"⟩]

/-- The lease of c has expired before its last attempt, and c comes before d. -/
theorem dequeue_crowdedHistory :
    crowdedQueue.store.IsFresh ∧ (createdIds crowdedHistory).Nodup ∧
      Text.isBlank "w" = false ∧
      ({ crowdedQueue.after crowdedHistory with settings := ⟨10, 2⟩ }.Idles 41 "w" ∨
        ∃ t t', { crowdedQueue.after crowdedHistory with settings := ⟨10, 2⟩ }.LeasesFirst 41 "w"
          t t') ∧
      (((crowdedQueue.after crowdedHistory).dequeue 41 "w").1.toOption.join.map Task.id,
        ["a", "b", "c", "d"].map fun id =>
          (((crowdedQueue.after crowdedHistory).dequeue 41 "w").2.store.task? id).map
            fun t => (t.status, t.attempts, t.updatedAt))
        = (some "c", [some (.failed, 2, 41), some (.inProgress, 2, 39), some (.inProgress, 2, 41),
            some (.pending, 0, 9)]) := by
  have hfresh : crowdedQueue.store.IsFresh := .keyspace "queue"
  have hids : (createdIds crowdedHistory).Nodup := by decide
  have hworker : Text.isBlank "w" = false := by decide
  refine ⟨hfresh, hids, hworker, dequeue_after hfresh crowdedHistory hids ⟨10, 2⟩ 41 hworker, ?_⟩
  decide +kernel

end LeaseQueue.Service
