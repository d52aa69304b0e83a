/-
Which events the calls of a service record.

* `AuditSink.recordAll`: several events, one after the other;
* `Service.sweepEvents`, `Service.answerEvents`: the events of a sweep, and those of any call, told
  by what it returns;
* `Service.noted`, `Service.audit_serve`: the events of a call of a run, after which the sink holds
  them and nothing else;
* `Service.Mirrors.noted_eq`: they are those of the call on a ledger.
-/
import LeaseQueue.Proofs.Service.Mirror

namespace LeaseQueue

namespace AuditSink

/-- The sink after several events. -/
def recordAll (s : AuditSink) (events : List AuditEvent) : AuditSink := events.foldl record s

@[simp] lemma recordAll_nil (s : AuditSink) : s.recordAll [] = s := rfl

@[simp] lemma recordAll_cons (s : AuditSink) (e : AuditEvent) (events : List AuditEvent) :
    s.recordAll (e :: events) = (s.record e).recordAll events := rfl

lemma recordAll_append (s : AuditSink) (events events' : List AuditEvent) :
    s.recordAll (events ++ events') = (s.recordAll events).recordAll events' :=
  List.foldl_append

/-- Events in memory stand in the order in which they are recorded. -/
lemma recordAll_log (l : AuditLog) (events : List AuditEvent) :
    (log l).recordAll events = log ⟨l.events ++ events⟩ := by
  induction events generalizing l with
  | nil => rw [recordAll_nil, List.append_nil]
  | cons e events ih =>
      rw [recordAll_cons, record, ih, AuditLog.record, List.append_assoc, List.singleton_append]

end AuditSink

namespace Service

/-! ### Events -/

/-- The event of a task that waits again. -/
def requeuedEvent (now : Timestamp) (t : Task) : AuditEvent :=
  ⟨AuditKind.requeued.name, queueSubject, .ofList [idDetail t, attemptsDetail t], now⟩

/-- The event of a task whose last lease expired, in the name of its former owner. -/
def failedEvent (now : Timestamp) (r : SweepReport) (t : Task) : AuditEvent :=
  ⟨AuditKind.failedTimeout.name, (r.previousWorker t.id).getD unknownSubject,
    .ofList [idDetail t, attemptsDetail t], now⟩

/-- The events of a sweep: the tasks that wait again, and then those that failed. -/
def sweepEvents (now : Timestamp) (r : SweepReport) : List AuditEvent :=
  r.requeued.map (requeuedEvent now) ++ r.failed.map (failedEvent now r)

/-- The events of a call that returns something. -/
def answerEvents (now : Timestamp) : ServiceCall → Except TaskError Outcome → List AuditEvent
  | .enqueue _ _ _, .ok (.task t) =>
    [⟨AuditKind.enqueued.name, queueSubject, .ofList [idDetail t], now⟩]
  | .dequeue worker, .ok (.found (some t)) =>
    [⟨AuditKind.dequeued.name, worker, .ofList [idDetail t], now⟩]
  | .ack _ _ _, .ok (.task t) =>
    [⟨AuditKind.acknowledged.name, queueSubject, .ofList [idDetail t, statusDetail t], now⟩]
  | .heartbeat _, .ok (.task t) =>
    [⟨AuditKind.heartbeat.name, queueSubject, .ofList [idDetail t], now⟩]
  | .recover, .ok (.swept r) => sweepEvents now r
  | _, _ => []

@[simp] lemma answerEvents_error (now : Timestamp) (call : ServiceCall) (e : TaskError) :
    answerEvents now call (.error e) = [] := by cases call <;> rfl

/-- Calls that only read have no events. -/
lemma answerEvents_list (now : Timestamp) (status : String) (r : Except TaskError (List Task)) :
    answerEvents now (.list status) (r.map .tasks) = [] := by cases r <;> rfl

lemma answerEvents_get (now : Timestamp) (id : String) (r : Except TaskError Task) :
    answerEvents now (.get id) (r.map fun t => .found (some t)) = [] := by cases r <;> rfl

variable {σ : Type} [Storage σ]

/-- The events of a sweep that a service makes. -/
def sweepNoted (s : Service σ) (now : Timestamp) : List AuditEvent :=
  answerEvents now .recover (mapResult .swept (s.recover now)).1

/-- The events of a call of a run. A dequeue by a worker with a name has those of its sweep
first. -/
def noted (s : Service σ) (e : TimedServiceCall) : List AuditEvent :=
  match e.call with
  | .dequeue worker =>
    if Text.isBlank worker then []
    else s.sweepNoted e.swept ++ answerEvents e.now e.call (s.serve e).1
  | _ => answerEvents e.now e.call (s.serve e).1

/-! ### The sink after a call -/

omit [Storage σ] in
lemma audit_foldl_note {α : Type} (s : Service σ) (now : Timestamp) (kind : AuditKind)
    (subject : α → String) (details : α → List (String × String)) (l : List α) :
    (l.foldl (fun s a => s.note now kind (subject a) (details a)) s).audit
      = s.audit.recordAll
          (l.map fun a => ⟨kind.name, subject a, .ofList (details a), now⟩) := by
  induction l generalizing s with
  | nil => rfl
  | cons a l ih => exact ih _

omit [Storage σ] in
lemma audit_noteRequeued (s : Service σ) (now : Timestamp) (r : SweepReport) :
    (s.noteRequeued now r).audit = s.audit.recordAll (r.requeued.map (requeuedEvent now)) := by
  rw [noteRequeued]
  split_ifs with hempty
  · rw [List.isEmpty_iff.mp hempty]
    rfl
  · exact audit_foldl_note _ now .requeued _ _ r.requeued

omit [Storage σ] in
lemma audit_noteFailed (s : Service σ) (now : Timestamp) (r : SweepReport) :
    (s.noteFailed now r).audit = s.audit.recordAll (r.failed.map (failedEvent now r)) := by
  rw [noteFailed]
  split_ifs with hempty
  · rw [List.isEmpty_iff.mp hempty]
    rfl
  · exact audit_foldl_note _ now .failedTimeout _ _ r.failed

omit [Storage σ] in
/-- What follows a call that succeeds records the events of its answer. -/
lemma audit_whenOk {α : Type} (x : Except StoreError α × σ) (s : Service σ)
    {f : α → Service σ → Service σ} (events : Except TaskError α → List AuditEvent)
    (herror : ∀ e, events (.error e) = [])
    (hok : ∀ a s, (f a s).audit = s.audit.recordAll (events (.ok a))) :
    (whenOk (s.lift x) f).2.audit = s.audit.recordAll (events (whenOk (s.lift x) f).1) := by
  obtain ⟨e | a, x⟩ := x
  · change s.audit = s.audit.recordAll (events (.error _))
    rw [herror, AuditSink.recordAll_nil]
  · exact hok a _

lemma audit_recover (s : Service σ) (now : Timestamp) :
    (s.recover now).2.audit = s.audit.recordAll (s.sweepNoted now) := by
  refine audit_whenOk _ s (fun r => answerEvents now .recover (r.map .swept))
    (fun _ => rfl) fun r s => ?_
  rw [audit_noteFailed, audit_noteRequeued, ← AuditSink.recordAll_append]
  rfl

lemma audit_claim (s : Service σ) (now : Timestamp) (worker : String) :
    (s.claim now worker).2.audit = s.audit.recordAll
      (answerEvents now (.dequeue worker) (mapResult .found (s.claim now worker)).1) := by
  refine audit_whenOk _ s (fun r => answerEvents now (.dequeue worker) (r.map .found))
    (fun _ => rfl) ?_
  rintro (_ | t) s <;> rfl

lemma audit_list (s : Service σ) (status : String) : (s.list status).2.audit = s.audit := by
  simp only [list]
  split_ifs
  · rfl
  · cases Status.parse status <;> rfl

lemma audit_get (s : Service σ) (id : String) : (s.get id).2.audit = s.audit := by
  simp only [get, lift]
  rcases Storage.get s.store id with ⟨_ | _ | _, _⟩ <;> rfl

/-- After a call of a run the sink holds its events. -/
theorem audit_serve (s : Service σ) (e : TimedServiceCall) :
    (s.serve e).2.audit = s.audit.recordAll (s.noted e) := by
  obtain ⟨id, swept, now, call⟩ := e
  cases call with
  | enqueue type payload metadata =>
      exact audit_whenOk _ s
        (fun r => answerEvents now (.enqueue type payload metadata) (r.map .task))
        (fun _ => rfl) fun _ _ => rfl
  | dequeue worker =>
      have hrecover := s.audit_recover swept
      simp only [noted, serve]
      split_ifs
      · rfl
      · rcases hsweep : s.recover swept with ⟨err | r, s'⟩
        all_goals rw [hsweep] at hrecover
        · rw [AuditSink.recordAll_append, answerEvents_error]
          exact hrecover
        · rw [AuditSink.recordAll_append, ← hrecover]
          exact s'.audit_claim now worker
  | ack taskId success result =>
      exact audit_whenOk _ s
        (fun r => answerEvents now (.ack taskId success result) (r.map .task))
        (fun _ => rfl) fun _ _ => rfl
  | list status =>
      have hnone := answerEvents_list now status (s.list status).1
      calc (s.list status).2.audit = s.audit := s.audit_list status
        _ = s.audit.recordAll (answerEvents now (.list status) ((s.list status).1.map .tasks)) := by
            rw [hnone, AuditSink.recordAll_nil]
  | get taskId =>
      have hnone := answerEvents_get now taskId (s.get taskId).1
      calc (s.get taskId).2.audit = s.audit := s.audit_get taskId
        _ = s.audit.recordAll (answerEvents now (.get taskId)
              ((s.get taskId).1.map fun t => .found (some t))) := by
            rw [hnone, AuditSink.recordAll_nil]
  | heartbeat taskId =>
      exact audit_whenOk _ s (fun r => answerEvents now (.heartbeat taskId) (r.map .task))
        (fun _ => rfl) fun _ _ => rfl
  | recover => exact s.audit_recover now

/-! ### Events on a ledger -/

variable {s : Service TaskStore} {m : Service Ledger}

/-- The events of a call of a run are those of the call on the ledger. -/
theorem Mirrors.noted_eq (h : s.Mirrors m) (e : TimedServiceCall)
    (hnew : e.call.isEnqueue = true → m.store.get? e.id = none) : s.noted e = m.noted e := by
  have hserve := (h.serve e hnew).answer
  have hsweep : s.sweepNoted e.swept = m.sweepNoted e.swept :=
    congrArg (answerEvents e.swept .recover) ((h.recover e.swept).map Outcome.swept).answer
  simp only [noted, hserve, hsweep]

end Service

end LeaseQueue
