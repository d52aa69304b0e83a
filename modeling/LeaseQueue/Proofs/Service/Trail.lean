/-
The events of a run tell the story of every task.

* `Tells`, `Entry.tells`: events that tell the story of a task, which goes on with every entry;
* `Ledger.Told`, `Service.told_serve`: events that tell the story of every task, call by call;
* `Service.Enqueued`, `Trail`, `Service.Audited`: what the events of a run say of its tasks;
* `Service.trail_after`: that is so after every run.
-/
import LeaseQueue.Proofs.Service.Entries
import LeaseQueue.Proofs.Service.Lifecycle

namespace LeaseQueue

/-! ### The story of a task -/

/-- The events that name a task tell its story, with its leases. -/
inductive Tells : Option Task → List AuditEvent → List Task → Prop where
  | absent : Tells none [] []
  | present {t : Task} {events : List AuditEvent} {leases : List Task} {workers : List String}
    (hstory : Story (events.filter fun e => ¬ e.Is .heartbeat) t.status workers)
    (hleases : leases.map Task.worker = workers.map some)
    (howner : t.status = .inProgress → t.worker = workers.getLast?) :
    Tells (some t) events leases

/-- No event names a task that is not there. -/
lemma Tells.eq_nil {events : List AuditEvent} {leases : List Task} (h : Tells none events leases) :
    events = [] := by
  cases h
  rfl

lemma Tells.story {t : Task} {events : List AuditEvent} {leases : List Task}
    (h : Tells (some t) events leases) :
    ∃ workers, Story (events.filter fun e => ¬ e.Is .heartbeat) t.status workers ∧
      leases.map Task.worker = workers.map some := by
  cases h with
  | present hstory hleases howner => exact ⟨_, hstory, hleases⟩

/-- The story of a task goes on with the events of a call. -/
theorem Entry.tells {o o' : Option Task} {events new : List AuditEvent} {leases leased : List Task}
    (h : Entry o o' new leased) (htells : Tells o events leases)
    (hcount : ∀ t, o = some t → leases.length = t.attempts.toNat) :
    Tells o' (events ++ new) (leases ++ leased) := by
  -- the event that is added is no refresh
  have hsnoc : ∀ {e : AuditEvent} {kind : AuditKind}, e.Is kind → kind ≠ .heartbeat →
      (events ++ [e]).filter (fun e => ¬ e.Is .heartbeat)
        = events.filter (fun e => ¬ e.Is .heartbeat) ++ [e] := by
    intro e kind h hne
    rw [List.filter_append, List.filter_singleton, decide_eq_true (h.not_is hne), cond_true]
  have hlength : ∀ {workers : List String} {t : Task}, leases.map Task.worker = workers.map some →
      o = some t → workers.length = t.attempts.toNat := by
    intro workers t hleases ho
    have h := congrArg List.length hleases
    rw [List.length_map, List.length_map] at h
    exact h.symm.trans (hcount t ho)
  cases h with
  | same => rwa [List.append_nil, List.append_nil]
  | created hs h =>
      cases htells with
      | absent =>
          refine .present (?_ : Story _ _ []) rfl (by simp [hs])
          rw [hsnoc h (by decide), hs]
          exact .enqueued h
  | leased now hs h =>
      cases htells with
      | present hstory hleases howner =>
          rw [hs] at hstory
          have hleased := hstory.dequeued h
          rw [← hsnoc h (by decide)] at hleased
          refine .present hleased ?_ fun _ => List.getLast?_concat.symm
          rw [List.map_append, List.map_append, hleases]
          rfl
  | refreshed now h =>
      cases htells with
      | present hstory hleases howner =>
          refine .present ?_ (by rwa [List.append_nil]) howner
          rw [List.filter_append, List.filter_singleton, decide_eq_false (not_not.mpr h),
            cond_false, List.append_nil]
          exact hstory
  | requeued hs h hattempts =>
      cases htells with
      | present hstory hleases howner =>
          rw [hs] at hstory
          refine .present ?_ (by rwa [List.append_nil]) (fun h => by cases h)
          rw [hsnoc h (by decide)]
          exact hstory.requeued h (by rw [hlength hleases rfl, hattempts])
  | failed hs h hattempts hsubject =>
      cases htells with
      | present hstory hleases howner =>
          rw [hs] at hstory
          obtain ⟨_, d, _, _, hlast⟩ := hstory.last_of_inProgress
          rw [howner hs, hlast, Option.getD_some] at hsubject
          refine .present ?_ (by rwa [List.append_nil]) (fun h => by cases h)
          rw [hsnoc h (by decide)]
          exact hstory.failed h (by rw [hlength hleases rfl, hattempts]) (by rw [hlast, hsubject])
  | finished ht h hstatus =>
      cases htells with
      | present hstory hleases howner =>
          obtain ⟨hopen, rfl⟩ := Task.of_finish_eq_ok ht
          refine .present ?_ (by rwa [List.append_nil]) (fun h => ?_)
          · rw [hsnoc h (by decide)]
            exact hstory.acknowledged hopen h hstatus (by split <;> rfl)
          · dsimp only at h
            split at h <;> cases h

open AuditEvent

/-! ### Stories of all tasks -/

namespace Ledger

variable {L L' : Ledger} {events new : List AuditEvent} {leases leased : List Task}

/-- The events tell the story of every task, with its leases. -/
def Told (L : Ledger) (events : List AuditEvent) (leases : List Task) : Prop :=
  ∀ id, Tells (L.get? id) (about id events) (Task.withId id leases)

/-- The leases of a task are its attempts. -/
def Counted (L : Ledger) (leases : List Task) : Prop :=
  ∀ id t, L.get? id = some t → (Task.withId id leases).length = t.attempts.toNat

lemma Regular.leasesCounted {limit : UInt32} (h : L.Regular limit leases) : L.Counted leases := by
  intro id t ht
  rw [Task.withId, ← List.countP_eq_length_filter]
  exact h.counted ht

/-- The stories go on with what a call enters. -/
lemma Told.enters (h : L.Told events leases) (hcount : L.Counted leases)
    (hnew : L.Enters new leased L') : L'.Told (events ++ new) (leases ++ leased) := by
  intro id
  rw [about_append, Task.withId_append]
  exact (hnew id).tells (h id) (hcount id)

end Ledger

namespace Service

open TimedServiceCall

variable {m : Service Ledger} {events : List AuditEvent} {leases : List Task}

/-- A sweep ends leases, but takes no attempt back. -/
lemma counted_recover (hcount : m.store.Counted leases) (now : Timestamp) :
    (m.recover now).2.store.Counted leases := by
  obtain ⟨-, hstore, -⟩ := m.recover_ledger now
  intro id t' ht'
  rw [hstore, Ledger.get?_recover, Option.map_eq_some_iff] at ht'
  obtain ⟨t, ht, rfl⟩ := ht'
  rw [QueueSettings.sweep_attempts]
  exact hcount id t ht

/-- Every call of a run goes on with the story of every task. A dequeue does so twice, as it sweeps
first. -/
theorem told_serve (h : m.store.Told events leases) (hcount : m.store.Counted leases)
    (e : TimedServiceCall) (hnew : e.call.isEnqueue = true → m.store.get? e.id = none) :
    (m.serve e).2.store.Told (events ++ m.noted e)
      (leases ++ (e.call.leased? (m.serve e).1).toList) := by
  obtain ⟨id, swept, now, call⟩ := e
  -- calls that only read have no events
  have hquiet : (m.serve ⟨id, swept, now, call⟩).2 = m → m.noted ⟨id, swept, now, call⟩ = [] →
      call.leased? (m.serve ⟨id, swept, now, call⟩).1 = none →
        (m.serve ⟨id, swept, now, call⟩).2.store.Told (events ++ m.noted ⟨id, swept, now, call⟩)
          (leases ++ (call.leased? (m.serve ⟨id, swept, now, call⟩).1).toList) := by
    intro hsame hnone hleased
    rw [hsame, hnone, hleased, Option.toList_none, List.append_nil, List.append_nil]
    exact h
  cases call with
  | enqueue type payload metadata => exact h.enters hcount (m.enters_enqueue now (hnew rfl))
  | dequeue worker =>
      cases hblank : Text.isBlank worker with
      | true =>
          have hserve : m.serve ⟨id, swept, now, .dequeue worker⟩
              = (.error (.invalidArgument "worker_id must not be empty"), m) := by
            simp [serve, hblank]
          refine hquiet (by rw [hserve]) ?_ (by rw [hserve]; rfl)
          simp [noted, hblank]
      | false =>
          have hswept := h.enters hcount (m.enters_recover swept)
          rw [List.append_nil] at hswept
          have hclaimed := hswept.enters (counted_recover hcount swept)
            ((m.recover swept).2.enters_claim now worker)
          have hserve := m.serve_dequeue_eq_claim id swept now hblank
          have hnoted : m.noted ⟨id, swept, now, .dequeue worker⟩
              = m.sweepNoted swept ++ answerEvents now (.dequeue worker)
                  (((m.recover swept).2.claim now worker).1.map .found) := by
            simp only [noted, hblank, Bool.false_eq_true, if_false, hserve]
            rfl
          rw [hnoted, hserve, ← List.append_assoc]
          exact hclaimed
  | ack taskId success result => exact h.enters hcount (m.enters_ack now)
  | list status =>
      exact hquiet (m.list_ledger status) (answerEvents_list now status (m.list status).1) rfl
  | get taskId =>
      exact hquiet (m.get_ledger taskId) (answerEvents_get now taskId (m.get taskId).1) rfl
  | heartbeat taskId => exact h.enters hcount (m.enters_heartbeat now)
  | recover => exact h.enters hcount (m.enters_recover now)

/-! ### Runs -/

variable {s : Service TaskStore} {history : List TimedServiceCall}

/-- In a run from a fresh store with events in memory, the events tell the story of every task. -/
lemma told_after (hfresh : s.store.IsFresh) (haudit : s.audit = .log .empty)
    (hids : (createdIds history).Nodup) :
    ∃ log, (s.after history).audit = .log log ∧
      (s.onLedger.after history).store.Told log.events (s.leases history) := by
  refine run_induction hfresh history hids ⟨.empty, haudit, fun id => .absent⟩ ?_
  rintro history e hbefore - hmirrors hfree ⟨log, hlog, htold⟩
  have hcount := (hmirrors.reaches hfresh hbefore).regular.leasesCounted
  refine ⟨⟨log.events ++ (s.after history).noted e⟩, ?_, ?_⟩
  · rw [after_append_singleton, audit_serve, hlog, AuditSink.recordAll_log]
  · rw [after_append_singleton, leases_append_singleton, (hmirrors.serve e hfree).answer,
      hmirrors.noted_eq e hfree]
    exact told_serve htold hcount e hfree

/-- A call of a run stores a task under an id. -/
def Enqueued (s : Service TaskStore) (history : List TimedServiceCall) (id : String) : Prop :=
  ∃ before e after t, history = before ++ e :: after ∧ e.call.isEnqueue = true ∧
    ((s.after before).serve e).1 = .ok (.task t) ∧ t.id = id

/-- Every task that a run leaves was stored by one of its calls. -/
lemma enqueued_of_get? (hfresh : s.store.IsFresh) (hids : (createdIds history).Nodup)
    (id : String) :
    (s.onLedger.after history).store.get? id ≠ none → s.Enqueued history id := by
  refine run_induction hfresh history hids (fun h => absurd rfl h) ?_
  intro history e hbefore hids hmirrors hfree ih hstored
  obtain ⟨t, ht⟩ := Option.ne_none_iff_exists'.mp hstored
  cases hold : (s.onLedger.after history).store.get? id with
  | some u =>
      obtain ⟨before, c, after, v, rfl, hc⟩ := ih (by simp [hold])
      exact ⟨before, c, after ++ [e], v, by simp, hc⟩
  | none =>
      obtain ⟨M, L', r, r', hstep⟩ := (hmirrors.reaches hfresh hbefore).next (by decide)
        (maxAttempts_le _) (nodup_created_append_singleton hids).2
      have hL' : L'.get? id = some t := by
        rw [← hstep.reaches.holds.task?_eq, (mirrors_after hfresh hids).store.task?_eq, ht]
      obtain ⟨type, payload, metadata, hcall, htask⟩ := hstep.created hold hL'
      refine ⟨history, e, [], t, rfl, by rw [hcall]; rfl, ?_, Ledger.id_of_get? hL'⟩
      rw [(hmirrors.serve e hfree).answer]
      obtain ⟨newId, swept, now, call⟩ := e
      obtain rfl : call = .enqueue type payload metadata := hcall
      have hanswer := ((s.onLedger.after history).enqueue_ledger newId now type payload metadata).1
      exact congrArg (Except.map Outcome.task) (hanswer.trans htask)

/-- What the events of a task say, refreshes left out: its life, status and attempts, and who had
its leases. -/
structure Trail (told : List AuditEvent) (leases : List Task) (t : Task) : Prop where
  word : ∃ n ending, told.map AuditEvent.type = AuditKind.enqueued.name ::
      ((List.replicate n [AuditKind.dequeued.name, AuditKind.requeued.name]).flatten ++ ending) ∧
    Ends ending t.status
  acknowledged : ∀ e ∈ told, e.Is .acknowledged → e.details.get? "status" = some t.status.name
  leased : told.countP (fun e => e.Is .dequeued) = t.attempts.toNat
  attempts : ∀ before e after, told = before ++ e :: after → e.Is .requeued ∨ e.Is .failedTimeout →
    e.details.get? "attempts" = some (Decimal.text (before.countP fun e => e.Is .dequeued))
  workers : (told.filter fun e => e.Is .dequeued).map (fun e => some e.subject)
    = leases.map Task.worker
  owner : ∀ before e after, told = before ++ e :: after → e.Is .failedTimeout →
    ∃ d, before.getLast? = some d ∧ d.Is .dequeued ∧ d.subject = e.subject

/-- The events of a run name tasks that its calls have stored, and tell the story of each. -/
structure Audited (s : Service TaskStore) (history : List TimedServiceCall) (log : AuditLog) :
    Prop where
  named : ∀ e ∈ log.events, ∀ id, e.Names id →
    s.Enqueued history id ∧ ∃ t, (s.after history).store.task? id = some t
  trail : ∀ id t, (s.after history).store.task? id = some t →
    Trail ((about id log.events).filter fun e => ¬ e.Is .heartbeat)
      (Task.withId id (s.leases history)) t

/-- From a fresh store with events in memory, the events of every run that names each new task anew
tell the story of every task, and name no other. -/
theorem trail_after (hfresh : s.store.IsFresh) (haudit : s.audit = .log .empty)
    (history : List TimedServiceCall) (hids : (createdIds history).Nodup) :
    ∃ log, (s.after history).audit = .log log ∧ s.Audited history log := by
  obtain ⟨log, hlog, htold⟩ := told_after hfresh haudit hids
  have hmirrors := mirrors_after hfresh hids
  have hcount := (hmirrors.reaches hfresh hids).regular.leasesCounted
  refine ⟨log, hlog, fun e he id hname => ?_, fun id t ht => ?_⟩
  · have hmem : e ∈ about id log.events := List.mem_filter.mpr ⟨he, decide_eq_true hname⟩
    have htells := htold id
    rw [hmirrors.store.task?_eq]
    cases ht : (s.onLedger.after history).store.get? id with
    | some t => exact ⟨enqueued_of_get? hfresh hids id (by simp [ht]), t, rfl⟩
    | none =>
        rw [ht] at htells
        rw [htells.eq_nil] at hmem
        cases hmem
  · rw [hmirrors.store.task?_eq] at ht
    have htells := htold id
    have hlength := hcount id t ht
    rw [ht] at htells
    obtain ⟨workers, hstory, hleases⟩ := htells.story
    have hworkers := congrArg List.length hleases
    rw [List.length_map, List.length_map, hlength] at hworkers
    refine ⟨hstory.word, fun e he hack => (hstory.acknowledged_status e he hack).2,
      hstory.countP_dequeued.trans hworkers.symm, hstory.attempts, ?_, hstory.failed_subject⟩
    rw [hleases, ← hstory.workers_eq, List.map_map]
    rfl

/-- A queue with events in memory, and leases of three milliseconds. -/
def auditedQueue : Service TaskStore :=
  ⟨.keyspace (.empty "queue"), ⟨3, 2⟩, .none, .log .empty⟩

/-- Task a is leased twice and fails, b is finished while it is leased, and c waits. -/
def auditedHistory : List TimedServiceCall :=
  [⟨"a", 1, 1, .enqueue "mail" "" ∅⟩, ⟨"b", 2, 2, .enqueue "mail" "" ∅⟩,
    ⟨"", 3, 3, .dequeue "v"⟩, ⟨"", 4, 4, .dequeue "w"⟩, ⟨"", 5, 5, .ack "b" true none⟩,
    ⟨"", 6, 6, .heartbeat "a"⟩, ⟨"", 10, 11, .dequeue "u"⟩, ⟨"c", 12, 12, .enqueue "mail" "" ∅⟩,
    ⟨"", 20, 20, .recover⟩]

/-- Their events. The second lease of a is that of another worker, and so is its failure. -/
def auditedLog : AuditLog where
  events :=
    [⟨"task_enqueued", "queue", .ofList [("task_id", "a")], 1⟩,
      ⟨"task_enqueued", "queue", .ofList [("task_id", "b")], 2⟩,
      ⟨"task_dequeued", "v", .ofList [("task_id", "a")], 3⟩,
      ⟨"task_dequeued", "w", .ofList [("task_id", "b")], 4⟩,
      ⟨"task_acknowledged", "queue", .ofList [("task_id", "b"), ("status", "COMPLETED")], 5⟩,
      ⟨"task_heartbeat", "queue", .ofList [("task_id", "a")], 6⟩,
      ⟨"task_requeued", "queue", .ofList [("task_id", "a"), ("attempts", "1")], 10⟩,
      ⟨"task_dequeued", "u", .ofList [("task_id", "a")], 11⟩,
      ⟨"task_enqueued", "queue", .ofList [("task_id", "c")], 12⟩,
      ⟨"task_failed_timeout", "u", .ofList [("task_id", "a"), ("attempts", "2")], 20⟩]

theorem trail_auditedHistory :
    auditedQueue.store.IsFresh ∧ auditedQueue.audit = .log .empty ∧
      (createdIds auditedHistory).Nodup ∧
      (auditedQueue.after auditedHistory).audit = .log auditedLog ∧
      auditedQueue.Audited auditedHistory auditedLog ∧
      ((auditedQueue.after auditedHistory).store.task? "a").map (fun t => (t.status, t.attempts))
        = some (.failed, 2) := by
  have hfresh : auditedQueue.store.IsFresh := .keyspace "queue"
  have haudit : auditedQueue.audit = .log .empty := rfl
  have hids : (createdIds auditedHistory).Nodup := by decide
  have hevents : (auditedQueue.after auditedHistory).audit = .log auditedLog := by decide +kernel
  obtain ⟨log, hlog, haudited⟩ := trail_after hfresh haudit auditedHistory hids
  obtain rfl := AuditSink.log.inj (hlog.symm.trans hevents)
  exact ⟨hfresh, haudit, hids, hevents, haudited, by decide +kernel⟩

end Service

end LeaseQueue
