/-
What each call of a service does to a task, told by its events.

* `AuditEvent.about`, `Task.withId`: the events that name a task, and the leases of it;
* `Entry`: what a call does to the task under an id, with the events that name it and its leases;
* `Ledger.Enters`: every task goes on with an entry; `Ledger.enters_put`, `Ledger.enters_recover`:
  so it does in a call on one task, and in a sweep;
* `Service.enters_enqueue` to `Service.enters_recover`: so it does in every call of a service.
-/
import LeaseQueue.Proofs.Service.Audit
import LeaseQueue.Proofs.Service.OnLedger
import LeaseQueue.Proofs.Service.Story

namespace LeaseQueue

/-! ### Entries -/

/-- The events that name a task. -/
def AuditEvent.about (id : String) (events : List AuditEvent) : List AuditEvent :=
  events.filter fun e => e.Names id

/-- Those of some tasks that have an id. -/
def Task.withId (id : String) (l : List Task) : List Task := l.filter fun t => t.id = id

/-- What a call does to the task under an id, with the events that name it and its leases. -/
inductive Entry : Option Task → Option Task → List AuditEvent → List Task → Prop where
  | same (o : Option Task) : Entry o o [] []
  | created {t : Task} {e : AuditEvent} (hs : t.status = .pending) (h : e.Is .enqueued) :
    Entry none (some t) [e] []
  | leased {t : Task} (now : Timestamp) {e : AuditEvent} (hs : t.status = .pending)
    (h : e.Is .dequeued) :
    Entry (some t) (some (t.claim e.subject now)) [e] [t.claim e.subject now]
  | refreshed {t : Task} (now : Timestamp) {e : AuditEvent} (h : e.Is .heartbeat) :
    Entry (some t) (some (t.touch now)) [e] []
  | requeued {t : Task} {now : Timestamp} {e : AuditEvent} (hs : t.status = .inProgress)
    (h : e.Is .requeued)
    (hattempts : e.details.get? "attempts" = some (Decimal.text t.attempts.toNat)) :
    Entry (some t) (some (t.requeue now)) [e] []
  | failed {t : Task} {now : Timestamp} {e : AuditEvent} (hs : t.status = .inProgress)
    (h : e.Is .failedTimeout)
    (hattempts : e.details.get? "attempts" = some (Decimal.text t.attempts.toNat))
    (hsubject : e.subject = t.worker.getD Service.unknownSubject) :
    Entry (some t) (some (t.exhaust now)) [e] []
  | finished {t t' : Task} {success : Bool} {result : Option String} {now : Timestamp}
    {e : AuditEvent} (ht : t.finish success result now = .ok t') (h : e.Is .acknowledged)
    (hstatus : e.details.get? "status" = some t'.status.name) : Entry (some t) (some t') [e] []

lemma Task.withId_append (id : String) (l l' : List Task) :
    Task.withId id (l ++ l') = Task.withId id l ++ Task.withId id l' := List.filter_append ..

/-! ### Calls on a ledger -/

namespace AuditEvent

lemma about_append (id : String) (events events' : List AuditEvent) :
    about id (events ++ events') = about id events ++ about id events' := List.filter_append ..

lemma names_iff {e : AuditEvent} {t : Task} (h : e.details.get? "task_id" = some t.id)
    {id : String} : e.Names id ↔ t.id = id := by
  rw [Names, h, Option.some_inj]

/-- Of events that name a task each, those of one task name it. -/
lemma about_map {id : String} {f : Task → AuditEvent}
    (h : ∀ t, (f t).details.get? "task_id" = some t.id) (l : List Task) :
    about id (l.map f) = (Task.withId id l).map f := by
  rw [about, List.filter_map, Task.withId]
  congr 2
  funext t
  exact decide_eq_decide.mpr (names_iff (h t))

end AuditEvent

open AuditEvent

namespace Service

lemma get?_idDetail (t : Task) : (SortedMap.ofList [idDetail t]).get? "task_id" = some t.id := by
  have hnodup : ([idDetail t].map (·.1)).Nodup := List.nodup_singleton "task_id"
  exact SortedMap.get?_ofList hnodup "task_id"

lemma get?_statusDetail (t : Task) :
    (SortedMap.ofList [idDetail t, statusDetail t]).get? "task_id" = some t.id ∧
      (SortedMap.ofList [idDetail t, statusDetail t]).get? "status" = some t.status.name := by
  have hnodup : ([idDetail t, statusDetail t].map (·.1)).Nodup := by
    change ["task_id", "status"].Nodup
    decide
  exact ⟨SortedMap.get?_ofList hnodup "task_id", SortedMap.get?_ofList hnodup "status"⟩

lemma get?_attemptsDetail (t : Task) :
    (SortedMap.ofList [idDetail t, attemptsDetail t]).get? "task_id" = some t.id ∧
      (SortedMap.ofList [idDetail t, attemptsDetail t]).get? "attempts"
        = some (Decimal.text t.attempts.toNat) := by
  have hnodup : ([idDetail t, attemptsDetail t].map (·.1)).Nodup := by
    change ["task_id", "attempts"].Nodup
    decide
  exact ⟨SortedMap.get?_ofList hnodup "task_id", SortedMap.get?_ofList hnodup "attempts"⟩

end Service

namespace Ledger

variable {L : Ledger} {id : String} {now : Timestamp} {q : QueueSettings}

/-- Between two ledgers, every task goes on with the events that name it and with its leases. -/
def Enters (L : Ledger) (events : List AuditEvent) (leased : List Task) (L' : Ledger) : Prop :=
  ∀ id, Entry (L.get? id) (L'.get? id) (about id events) (Task.withId id leased)

lemma Enters.refl (L : Ledger) : L.Enters [] [] L := fun id => .same (L.get? id)

/-- A call with one event goes on with the task that it replaces or adds, and with no other. -/
lemma enters_put {t : Task} {e : AuditEvent} {leased : List Task}
    (hname : e.details.get? "task_id" = some t.id) (hleased : ∀ u ∈ leased, u.id = t.id)
    (h : Entry (L.get? t.id) (some t) [e] leased) : L.Enters [e] leased (L.put t) := by
  intro id
  rw [get?_put, about, Task.withId]
  by_cases hid : t.id = id
  · subst hid
    rw [if_pos rfl, List.filter_eq_self.mpr, List.filter_eq_self.mpr]
    · exact h
    · exact fun u hu => decide_eq_true (hleased u hu)
    · intro e' he'
      obtain rfl := List.mem_singleton.mp he'
      exact decide_eq_true ((names_iff hname).mpr rfl)
  · rw [if_neg (Ne.symm hid), List.filter_eq_nil_iff.mpr, List.filter_eq_nil_iff.mpr]
    · exact .same _
    · intro u hu
      rw [hleased u hu, decide_eq_true_eq]
      exact hid
    · intro e' he'
      obtain rfl := List.mem_singleton.mp he'
      rw [decide_eq_true_eq, names_iff hname]
      exact hid

/-- Of the tasks with a property, one is stored under an id, or none. -/
lemma withId_select (L : Ledger) (p : Task → Bool) (id : String) :
    Task.withId id (L.select p) = ((L.get? id).filter p).toList := by
  have hmem : ∀ t, t ∈ Task.withId id (L.select p) ↔ t ∈ ((L.get? id).filter p).toList := by
    intro t
    rw [Task.withId, List.mem_filter, mem_select, Option.mem_toList, Option.filter_eq_some_iff,
      decide_eq_true_eq]
    constructor
    · rintro ⟨⟨ht, hp⟩, rfl⟩
      exact ⟨ht, hp⟩
    · rintro ⟨ht, hp⟩
      obtain rfl := id_of_get? ht
      exact ⟨⟨ht, hp⟩, rfl⟩
  have hnodup : (Task.withId id (L.select p)).Nodup :=
    (List.Nodup.of_map _ (nodup_select p)).sublist List.filter_sublist
  have hnodup' : ((L.get? id).filter p).toList.Nodup := by
    cases (L.get? id).filter p <;> simp
  have hperm := (List.perm_ext_iff_of_nodup hnodup hnodup').mpr hmem
  cases h : (L.get? id).filter p with
  | none =>
      rw [h] at hperm
      exact hperm.eq_nil
  | some t =>
      rw [h] at hperm
      exact List.perm_singleton.mp hperm

/-- The former owner of a lease that a sweep ends is its worker. -/
lemma previousWorker_recover {t : Task} (ht : L.get? t.id = some t) (hx : q.Expired now t) :
    (L.recover now q.visibilityTimeout q.maxAttempts).1.previousWorker t.id = t.worker := by
  have hmem : t ∈ L.overdue (Timestamp.before now q.visibilityTimeout) :=
    mem_select.mpr ⟨ht, QueueSettings.isOverdue_iff.mpr hx⟩
  have hid : ((L.overdue (Timestamp.before now q.visibilityTimeout)).map Task.id).Nodup :=
    nodup_select _
  rw [recover, SweepReport.previousWorker, previousWorkers_foldl_expireOne]
  refine (get?_foldl_owner hid _ _).trans ?_
  rw [find?_id hid hmem]
  exact Option.or_none

/-- What a sweep makes of the leases it ends keeps their ids. -/
lemma withId_filter_expire (p : Task → Bool) (ts : List Task) (id : String) :
    Task.withId id ((ts.map fun t => t.expire q.maxAttempts now).filter p)
      = ((Task.withId id ts).map fun t => t.expire q.maxAttempts now).filter p := by
  have hid : ((fun t : Task => decide (t.id = id)) ∘ fun t : Task => t.expire q.maxAttempts now)
      = fun t : Task => decide (t.id = id) := by
    funext t
    rw [Function.comp_apply, expire_id]
  rw [Task.withId, Task.withId, List.filter_comm, List.filter_map, hid]

/-- A sweep goes on with the leases that it ends. -/
lemma enters_recover (L : Ledger) (q : QueueSettings) (now : Timestamp) :
    L.Enters (Service.sweepEvents now (L.recover now q.visibilityTimeout q.maxAttempts).1) []
      (L.recover now q.visibilityTimeout q.maxAttempts).2 := by
  intro id
  have hts := L.withId_select (fun t => t.isOverdue (Timestamp.before now q.visibilityTimeout)) id
  have hrequeued : Task.withId id (L.recover now q.visibilityTimeout q.maxAttempts).1.requeued
      = (((L.get? id).filter fun t => t.isOverdue
          (Timestamp.before now q.visibilityTimeout)).toList.map
            fun t => t.expire q.maxAttempts now).filter fun t => t.status = .pending := by
    rw [recover, requeued_foldl_expireOne, overdue, ← hts]
    exact withId_filter_expire _ _ id
  have hfailed : Task.withId id (L.recover now q.visibilityTimeout q.maxAttempts).1.failed
      = (((L.get? id).filter fun t => t.isOverdue
          (Timestamp.before now q.visibilityTimeout)).toList.map
            fun t => t.expire q.maxAttempts now).filter fun t => t.status ≠ .pending := by
    rw [recover, failed_foldl_expireOne, overdue, ← hts]
    exact withId_filter_expire _ _ id
  rw [get?_recover, Service.sweepEvents, about_append,
    about_map (fun t => (Service.get?_attemptsDetail t).1),
    about_map (fun t => (Service.get?_attemptsDetail t).1), hrequeued, hfailed]
  cases ht : L.get? id with
  | none => exact .same none
  | some t =>
      obtain rfl := id_of_get? ht
      by_cases hx : q.Expired now t
      · have hoverdue := QueueSettings.isOverdue_iff.mpr hx
        have hs : t.status = .inProgress := hx.1
        rw [Option.map_some, QueueSettings.sweep_of_expired hx, Option.filter_some, if_pos hoverdue,
          Option.toList_some, List.map_singleton, Task.expire]
        split_ifs with hlast
        · have hsubject := congrArg (Option.getD · Service.unknownSubject)
            (previousWorker_recover ht hx)
          exact .failed hs rfl (Service.get?_attemptsDetail _).2 hsubject
        · exact .requeued hs rfl (Service.get?_attemptsDetail _).2
      · have hoverdue : ¬ t.isOverdue (Timestamp.before now q.visibilityTimeout) = true :=
          fun ho => hx (QueueSettings.isOverdue_iff.mp ho)
        rw [Option.map_some, QueueSettings.sweep_of_not_expired hx, Option.filter_some,
          if_neg hoverdue]
        exact .same (some t)

end Ledger

/-! ### Calls of a service -/

namespace Service

variable (m : Service Ledger) {id : String} (now : Timestamp)

lemma enters_enqueue {type payload : String} {metadata : Metadata}
    (hnew : m.store.get? id = none) :
    m.store.Enters (answerEvents now (.enqueue type payload metadata)
        ((m.enqueue id now type payload metadata).1.map .task)) []
      (m.enqueue id now type payload metadata).2.store := by
  obtain ⟨hanswer, hstore, -⟩ := m.enqueue_ledger id now type payload metadata
  rw [hanswer, hstore]
  simp only [Storage.enqueue]
  cases ht : Task.new id now type payload metadata with
  | error e => exact .refl _
  | ok t =>
      obtain rfl := Task.of_new_eq_ok ht
      refine Ledger.enters_put (get?_idDetail _) (by simp) ?_
      rw [hnew]
      exact .created rfl rfl

lemma enters_claim (worker : String) :
    m.store.Enters (answerEvents now (.dequeue worker) ((m.claim now worker).1.map .found))
      ((ServiceCall.dequeue worker).leased? ((m.claim now worker).1.map .found)).toList
      (m.claim now worker).2.store := by
  obtain ⟨hanswer, hstore, -⟩ := m.claim_ledger now worker
  rw [hanswer, hstore]
  obtain ⟨-, hdequeue⟩ | ⟨t, ht, hs, -, hdequeue⟩ := m.store.dequeue_cases now worker
  all_goals rw [hdequeue]
  · exact .refl _
  · refine Ledger.enters_put (get?_idDetail _) (fun u hu => by rw [List.mem_singleton.mp hu]) ?_
    have hentry := Entry.leased now hs
      (e := ⟨AuditKind.dequeued.name, worker, .ofList [idDetail (t.claim worker now)], now⟩) rfl
    rwa [← ht] at hentry

lemma enters_ack {taskId : String} {success : Bool} {result : Option String} :
    m.store.Enters (answerEvents now (.ack taskId success result)
        ((m.ack now taskId success result).1.map .task)) []
      (m.ack now taskId success result).2.store := by
  obtain ⟨hanswer, hstore, -⟩ := m.ack_ledger now taskId success result
  rw [hanswer, hstore]
  obtain ⟨-, hupdate⟩ | ⟨t, ht, ⟨_, -, hupdate⟩ | ⟨t', hfinish, hupdate⟩⟩ :=
    m.store.update_cases taskId fun t => t.finish success result now
  all_goals rw [hupdate]
  · exact .refl _
  · exact .refl _
  · obtain rfl := Ledger.id_of_get? ht
    refine Ledger.enters_put (get?_statusDetail t').1 (by simp) ?_
    rw [(Task.sameIdentity_finish hfinish).1, ht]
    exact .finished hfinish rfl (get?_statusDetail t').2

lemma enters_heartbeat {taskId : String} :
    m.store.Enters (answerEvents now (.heartbeat taskId) ((m.heartbeat now taskId).1.map .task)) []
      (m.heartbeat now taskId).2.store := by
  obtain ⟨hanswer, hstore, -⟩ := m.heartbeat_ledger now taskId
  rw [hanswer, hstore]
  obtain ⟨-, hupdate⟩ | ⟨t, ht, ⟨_, htouch, -⟩ | ⟨t', htouch, hupdate⟩⟩ :=
    m.store.update_cases taskId fun t => .ok (t.touch now)
  · rw [hupdate]
    exact .refl _
  · cases htouch
  · rw [hupdate]
    obtain rfl := Except.ok.inj htouch
    obtain rfl := Ledger.id_of_get? ht
    refine Ledger.enters_put (get?_idDetail _) (by simp) ?_
    have hentry := Entry.refreshed (t := t) now
      (e := ⟨AuditKind.heartbeat.name, queueSubject, .ofList [idDetail (t.touch now)], now⟩) rfl
    rwa [← ht] at hentry

lemma enters_recover :
    m.store.Enters (m.sweepNoted now) [] (m.recover now).2.store := by
  obtain ⟨hanswer, hstore, -⟩ := m.recover_ledger now
  rw [sweepNoted, mapResult, hanswer, hstore]
  exact m.store.enters_recover m.settings now

end Service

end LeaseQueue
