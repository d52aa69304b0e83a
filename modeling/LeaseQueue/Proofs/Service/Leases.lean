/-
A lease stands until it is left alone for longer than the timeout.

* `TimedServiceCall.sweepTime?`, `Service.Takes`, `Service.Finishes`: when a call sweeps, and which
  calls end a lease;
* `Service.refreshed?`: when a task was last leased or refreshed in a run;
* `Service.Keeps`, `Service.keeps_serve`: every other call changes nothing of a leased task but its
  update time, and that only when it refreshes the lease;
* `Service.Standing`, `Service.lease_after`: over every run a lease that has not been ended keeps
  its owner and its attempts, and the next sweep ends it exactly when it has expired.
-/
import LeaseQueue.Proofs.Service.OnLedger

namespace LeaseQueue

namespace TimedServiceCall

/-- When a call sweeps: a dequeue by a worker with a name does, and a sweep. -/
def sweepTime? (e : TimedServiceCall) : Option Timestamp :=
  match e.call with
  | .dequeue worker => if Text.isBlank worker then none else some e.swept
  | .recover => some e.now
  | _ => none

/-- Both readings of the clock are milliseconds from 1970 on, and fewer than 47 bits long. -/
structure Dated (e : TimedServiceCall) : Prop where
  swept : 0 ≤ e.swept.toInt ∧ e.swept.toInt ≤ 2 ^ 46
  now : 0 ≤ e.now.toInt ∧ e.now.toInt ≤ 2 ^ 46

lemma Dated.sweepTime {e : TimedServiceCall} (h : e.Dated) {n : Timestamp}
    (hn : e.sweepTime? = some n) : 0 ≤ n.toInt ∧ n.toInt ≤ 2 ^ 46 := by
  rw [sweepTime?] at hn
  split at hn
  · split_ifs at hn
    exact Option.some.inj hn ▸ h.swept
  · exact Option.some.inj hn ▸ h.now
  · cases hn

end TimedServiceCall

namespace Service

/-! ### What happens to a lease -/

section

variable {σ : Type} [Storage σ]

/-- When a call leases the task with an id, or refreshes its lease. -/
def refreshes? (s : Service σ) (e : TimedServiceCall) (id : String) : Option Timestamp :=
  if e.call = .heartbeat id ∨ ((e.call.leased? (s.serve e).1).map Task.id) = some id then
    some e.now
  else none

/-- When a run last leased the task with an id or refreshed its lease. -/
def refreshed? : Service σ → List TimedServiceCall → String → Option Timestamp
  | _, [], _ => none
  | s, e :: history, taskId =>
    ((s.serve e).2.refreshed? history taskId).or (s.refreshes? e taskId)

lemma refreshed?_append_singleton (s : Service σ) (history : List TimedServiceCall)
    (e : TimedServiceCall) (id : String) :
    s.refreshed? (history ++ [e]) id
      = ((s.after history).refreshes? e id).or (s.refreshed? history id) := by
  induction history generalizing s with
  | nil => simp [refreshed?, after]
  | cons e' history ih =>
      rw [List.cons_append, refreshed?, ih, refreshed?, Option.or_assoc]
      rfl

/-- A call finishes the task with an id. -/
def Finishes (s : Service σ) (e : TimedServiceCall) (id : String) : Prop :=
  (∃ success result, e.call = .ack id success result) ∧ ∃ o, (s.serve e).1 = .ok o

end

/-- A call takes a task from its worker: its sweep requeues or fails it. -/
def Takes (s : Service TaskStore) (e : TimedServiceCall) (id : String) : Prop :=
  ∃ n t t', e.sweepTime? = some n ∧ s.store.task? id = some t ∧ t.status = .inProgress ∧
    (s.recover n).2.store.task? id = some t' ∧ (t'.status = .pending ∨ t'.status = .failed)

/-- Within the dates of the clock, no difference of times leaves 64 bits unnoticed. -/
lemma expired_iff {q : QueueSettings} {n : Timestamp} {t : Task} (hs : t.status = .inProgress)
    (hn : 0 ≤ n.toInt ∧ n.toInt ≤ 2 ^ 46)
    (ht : 0 ≤ t.updatedAt.toInt ∧ t.updatedAt.toInt ≤ 2 ^ 46) :
    q.Expired n t ↔ t.updatedAt.toInt < n.toInt - q.visibilityTimeout.toInt := by
  have hage := q.visibilityTimeout.toInt_lt
  rw [QueueSettings.Expired]
  constructor
  · rintro ⟨-, hlt⟩
    omega
  · intro hlt
    exact ⟨hs, by omega⟩

variable {s : Service TaskStore} {m : Service Ledger} {e : TimedServiceCall} {id : String}
  {t : Task}

/-- A sweep takes a leased task exactly when its lease has expired. -/
lemma Mirrors.takes_iff (h : s.Mirrors m) (ht : m.store.get? id = some t)
    (hs : t.status = .inProgress) {n : Timestamp} (hn : e.sweepTime? = some n) :
    s.Takes e id ↔ s.settings.Expired n t := by
  obtain ⟨-, hswept, -⟩ := m.recover_ledger n
  have hget : (s.recover n).2.store.task? id = some (s.settings.sweep n t) := by
    rw [(h.recover n).mirrors.store.task?_eq, hswept, h.settings, Ledger.get?_recover, ht,
      Option.map_some]
  have hstored : s.store.task? id = some t := by rw [h.store.task?_eq, ht]
  constructor
  · rintro ⟨n', u, u', hn', hu, -, hu', hended⟩
    obtain rfl := Option.some.inj (hn.symm.trans hn')
    obtain rfl := Option.some.inj (hget.symm.trans hu')
    by_contra hx
    rw [QueueSettings.sweep_of_not_expired hx, hs] at hended
    simp at hended
  · intro hx
    refine ⟨n, t, _, hn, hstored, hs, hget, ?_⟩
    rw [QueueSettings.sweep, if_pos hx]
    split_ifs
    · exact .inl rfl
    · exact .inr rfl

/-! ### One call -/

/-- A dequeue leases the task that it returns. -/
lemma serve_leased (hleased : e.call.leased? (m.serve e).1 = some t) :
    ∃ worker, ∃ u : Task, e.call = .dequeue worker ∧ t = u.claim worker e.now ∧
      (m.serve e).2.store.get? t.id = some t := by
  obtain ⟨newId, swept, now, call⟩ := e
  cases call with
  | dequeue worker =>
      cases hblank : Text.isBlank worker with
      | true => simp [serve, hblank, ServiceCall.leased?] at hleased
      | false =>
          obtain ⟨hanswer, hstore, -⟩ := m.serve_dequeue_ledger
            (e := ⟨newId, swept, now, .dequeue worker⟩) rfl hblank
          rw [hanswer] at hleased
          obtain ⟨-, hdequeue⟩ | ⟨u, -, -, -, hdequeue⟩ :=
            (m.recover swept).2.store.dequeue_cases now worker
          · simp [hdequeue, ServiceCall.leased?] at hleased
          · simp only [hdequeue, ServiceCall.leased?, Option.some_inj] at hleased
            subst hleased
            refine ⟨worker, u, rfl, rfl, ?_⟩
            rw [hstore, hdequeue, Ledger.get?_put, if_pos rfl]
  | _ => simp [ServiceCall.leased?] at hleased

/-- A call changes nothing of a task but its update time, and that only when it refreshes it. -/
def Keeps (m : Service Ledger) (e : TimedServiceCall) (id : String) (t : Task) : Prop :=
  (m.serve e).2.store.get? id = some { t with updatedAt := (m.refreshes? e id).getD t.updatedAt }

/-- A call that does not refresh a task and leaves it as it is. -/
lemma keeps_of_unrefreshed (hnone : m.refreshes? e id = none)
    (hget : (m.serve e).2.store.get? id = some t) : m.Keeps e id t := by
  rw [Keeps, hget, hnone]
  rfl

/-- Only dequeues and heartbeats refresh a task. -/
lemma refreshes?_eq_none (hdequeue : ∀ worker, e.call ≠ .dequeue worker)
    (hheartbeat : e.call ≠ .heartbeat id) : m.refreshes? e id = none := by
  have hleased : e.call.leased? (m.serve e).1 = none := by
    cases hcall : e.call with
    | dequeue worker => exact absurd hcall (hdequeue worker)
    | _ => rfl
  simp [refreshes?, hheartbeat, hleased]

variable {newId : String} {swept now : Timestamp}

lemma keeps_enqueue {type payload : String} {metadata : Metadata} (ht : m.store.get? id = some t)
    (hnew : m.store.get? newId = none) :
    m.Keeps ⟨newId, swept, now, .enqueue type payload metadata⟩ id t := by
  obtain ⟨-, hstore, -⟩ := m.enqueue_ledger newId now type payload metadata
  refine keeps_of_unrefreshed (refreshes?_eq_none (by simp) (by simp)) ?_
  change (m.enqueue newId now type payload metadata).2.store.get? id = some t
  rw [hstore]
  simp only [Storage.enqueue]
  cases htask : Task.new newId now type payload metadata with
  | error e => exact ht
  | ok t' =>
      have hne : id ≠ t'.id := by
        rintro rfl
        rw [(Task.of_new htask).1, hnew] at ht
        cases ht
      rw [Ledger.get?_put, if_neg hne, ht]

lemma keeps_dequeue {worker : String} (ht : m.store.get? id = some t)
    (hs : t.status = .inProgress)
    (htake : Text.isBlank worker = false → ¬ m.settings.Expired swept t) :
    m.Keeps ⟨newId, swept, now, .dequeue worker⟩ id t := by
  cases hblank : Text.isBlank worker with
  | true =>
      have hserve : m.serve ⟨newId, swept, now, .dequeue worker⟩
          = (.error (.invalidArgument "worker_id must not be empty"), m) := by
        simp [serve, hblank]
      refine keeps_of_unrefreshed (by simp [refreshes?, hserve, ServiceCall.leased?]) ?_
      rw [hserve, ht]
  | false =>
      obtain ⟨-, hswept, -⟩ := m.recover_ledger swept
      obtain ⟨hanswer, hstore, -⟩ := m.serve_dequeue_ledger
        (e := ⟨newId, swept, now, .dequeue worker⟩) rfl hblank
      have hM : (m.recover swept).2.store.get? id = some t := by
        rw [hswept, Ledger.get?_recover, ht, Option.map_some,
          QueueSettings.sweep_of_not_expired (htake hblank)]
      obtain ⟨-, hdequeue⟩ | ⟨u, hu, hpending, -, hdequeue⟩ :=
        (m.recover swept).2.store.dequeue_cases now worker
      · refine keeps_of_unrefreshed ?_ ?_
        · simp [refreshes?, hanswer, hdequeue, ServiceCall.leased?]
        · rw [hstore, hdequeue, hM]
      · -- the task that is leased waits, so it is another one
        have hne : u.id ≠ id := by
          rintro rfl
          rw [hM, Option.some_inj] at hu
          simp [← hu, hs] at hpending
        have hne' : ¬ id = (u.claim worker now).id := fun heq => hne heq.symm
        refine keeps_of_unrefreshed ?_ ?_
        · simp [refreshes?, hanswer, hdequeue, ServiceCall.leased?, Task.claim, hne]
        · rw [hstore, hdequeue, Ledger.get?_put, if_neg hne', hM]

lemma keeps_ack {taskId : String} {success : Bool} {result : Option String}
    (ht : m.store.get? id = some t) (hs : t.status = .inProgress)
    (hfinish : ¬ m.Finishes ⟨newId, swept, now, .ack taskId success result⟩ id) :
    m.Keeps ⟨newId, swept, now, .ack taskId success result⟩ id t := by
  obtain ⟨hanswer, hstore, -⟩ := m.ack_ledger now taskId success result
  refine keeps_of_unrefreshed (refreshes?_eq_none (by simp) (by simp)) ?_
  change (m.ack now taskId success result).2.store.get? id = some t
  by_cases heq : id = taskId
  · subst heq
    refine absurd ⟨⟨success, result, rfl⟩, ?_⟩ hfinish
    obtain ⟨hnone, -⟩ | ⟨t', ht', ⟨err, hrefused, -⟩ | ⟨t'', -, hupdate⟩⟩ :=
      m.store.update_cases id fun t => t.finish success result now
    · simp [ht] at hnone
    · rw [ht, Option.some_inj] at ht'
      simp [← ht', Task.finish, hs, Status.isTerminal] at hrefused
    · rw [hupdate] at hanswer
      exact ⟨.task t'', congrArg (Except.map Outcome.task) hanswer⟩
  · rw [hstore, Ledger.get?_update_of_ne _ heq, ht]
    exact fun _ _ hfinish => (Task.sameIdentity_finish hfinish).1

lemma keeps_heartbeat {taskId : String} (ht : m.store.get? id = some t) :
    m.Keeps ⟨newId, swept, now, .heartbeat taskId⟩ id t := by
  obtain ⟨-, hstore, -⟩ := m.heartbeat_ledger now taskId
  by_cases heq : taskId = id
  · subst heq
    have hrefreshes : m.refreshes? ⟨newId, swept, now, .heartbeat taskId⟩ taskId = some now :=
      if_pos (.inl rfl)
    have hid : taskId = (t.touch now).id := (Ledger.id_of_get? ht).symm
    change (m.heartbeat now taskId).2.store.get? taskId = _
    rw [hstore, Ledger.update, ht, hrefreshes]
    exact (Ledger.get?_put m.store (t.touch now) taskId).trans (if_pos hid)
  · refine keeps_of_unrefreshed (refreshes?_eq_none (by simp) (by simp [heq])) ?_
    change (m.heartbeat now taskId).2.store.get? id = some t
    rw [hstore, Ledger.get?_update_of_ne _ (Ne.symm heq), ht]
    exact fun t t' htouch => (Except.ok.inj htouch) ▸ rfl

lemma keeps_recover (ht : m.store.get? id = some t) (htake : ¬ m.settings.Expired now t) :
    m.Keeps ⟨newId, swept, now, .recover⟩ id t := by
  obtain ⟨-, hstore, -⟩ := m.recover_ledger now
  refine keeps_of_unrefreshed (refreshes?_eq_none (by simp) (by simp)) ?_
  change (m.recover now).2.store.get? id = some t
  rw [hstore, Ledger.get?_recover, ht, Option.map_some, QueueSettings.sweep_of_not_expired htake]

/-- Every call that neither finishes a leased task nor takes it keeps the lease. -/
theorem keeps_serve (ht : m.store.get? id = some t) (hs : t.status = .inProgress)
    (hnew : e.call.isEnqueue = true → m.store.get? e.id = none) (hfinish : ¬ m.Finishes e id)
    (htake : ∀ n, e.sweepTime? = some n → ¬ m.settings.Expired n t) : m.Keeps e id t := by
  obtain ⟨newId, swept, now, call⟩ := e
  cases call with
  | enqueue type payload metadata => exact keeps_enqueue ht (hnew rfl)
  | dequeue worker =>
      exact keeps_dequeue ht hs fun hblank =>
        htake swept (by simp [TimedServiceCall.sweepTime?, hblank])
  | ack taskId success result => exact keeps_ack ht hs hfinish
  | list status =>
      refine keeps_of_unrefreshed (refreshes?_eq_none (by simp) (by simp)) ?_
      change (m.list status).2.store.get? id = some t
      rw [list_ledger, ht]
  | get taskId =>
      refine keeps_of_unrefreshed (refreshes?_eq_none (by simp) (by simp)) ?_
      change (m.get taskId).2.store.get? id = some t
      rw [get_ledger, ht]
  | heartbeat taskId => exact keeps_heartbeat ht
  | recover => exact keeps_recover ht (htake now rfl)

/-! ### Runs -/

open TimedServiceCall

/-- A call of a run leases a task, and no later call of the run finishes the task or takes it. -/
structure Standing (s : Service TaskStore) (before : List TimedServiceCall) (e : TimedServiceCall)
    (later : List TimedServiceCall) (t : Task) : Prop where
  leased : e.call.leased? ((s.after before).serve e).1 = some t
  unfinished : ∀ mid c rest, later = mid ++ c :: rest →
    ¬ (s.after (before ++ e :: mid)).Finishes c t.id
  untaken : ∀ mid c rest, later = mid ++ c :: rest →
    ¬ (s.after (before ++ e :: mid)).Takes c t.id

/-- A run leaves a leased task as it was leased, but for the time of its last refresh, from which
its timeout counts. -/
structure Stands (s : Service TaskStore) (history : List TimedServiceCall) (t : Task)
    (refreshed : Timestamp) : Prop where
  refreshed?_eq : s.refreshed? history t.id = some refreshed
  stored : (s.after history).store.task? t.id = some { t with updatedAt := refreshed }
  takes_iff : ∀ (c : TimedServiceCall) (n : Timestamp), c.Dated → c.sweepTime? = some n →
    ((s.after history).Takes c t.id ↔
      refreshed.toInt < n.toInt - s.settings.visibilityTimeout.toInt)

variable {before later : List TimedServiceCall} {c : TimedServiceCall}

lemma Standing.init (h : s.Standing before e (later ++ [c]) t) : s.Standing before e later t where
  leased := h.leased
  unfinished mid c' rest hlater := h.unfinished mid c' (rest ++ [c]) (by simp [hlater])
  untaken mid c' rest hlater := h.untaken mid c' (rest ++ [c]) (by simp [hlater])

lemma Mirrors.refreshes?_eq (h : s.Mirrors m)
    (hnew : e.call.isEnqueue = true → m.store.get? e.id = none) (id : String) :
    s.refreshes? e id = m.refreshes? e id := by
  rw [refreshes?, refreshes?, (h.serve e hnew).answer]

lemma Mirrors.finishes_iff (h : s.Mirrors m)
    (hnew : e.call.isEnqueue = true → m.store.get? e.id = none) (id : String) :
    s.Finishes e id ↔ m.Finishes e id := by
  rw [Finishes, Finishes, (h.serve e hnew).answer]

/-- The task that a lease hands out is stored, and was last refreshed then. -/
lemma Mirrors.leased (h : s.Mirrors m) (hleased : e.call.leased? (s.serve e).1 = some t) :
    (∃ worker, e.call = .dequeue worker ∧ t.worker = some worker) ∧ t.status = .inProgress ∧
      s.refreshes? e t.id = some e.now ∧
      (m.serve e).2.store.get? t.id = some { t with updatedAt := e.now } := by
  have hrefreshes : s.refreshes? e t.id = some e.now := if_pos (.inr (by rw [hleased]; rfl))
  have hnew : e.call.isEnqueue = true → m.store.get? e.id = none := by
    intro he
    cases hcall : e.call <;> simp [hcall, ServiceCall.isEnqueue, ServiceCall.leased?] at he hleased
  rw [(h.serve e hnew).answer] at hleased
  obtain ⟨worker, u, hcall, rfl, hstored⟩ := serve_leased hleased
  exact ⟨⟨worker, hcall, rfl⟩, rfl, hrefreshes, hstored⟩

/-- One more call leaves a lease that still stands as it was, but for a refresh. -/
lemma Standing.next (h : s.Standing before e (later ++ [c]) t)
    (hm : (s.after (before ++ e :: later)).Mirrors m)
    (hnew : c.call.isEnqueue = true → m.store.get? c.id = none) {u : Timestamp}
    (hs : t.status = .inProgress) (hstored : m.store.get? t.id = some { t with updatedAt := u }) :
    (m.serve c).2.store.get? t.id
      = some { t with updatedAt :=
          ((s.after (before ++ e :: later)).refreshes? c t.id).getD u } := by
  have hfinish := h.unfinished later c [] rfl
  have htake := h.untaken later c [] rfl
  rw [hm.finishes_iff hnew] at hfinish
  rw [hm.refreshes?_eq hnew]
  refine keeps_serve hstored hs hnew hfinish fun n hn hx => htake ?_
  rw [hm.takes_iff hstored hs hn, hm.settings.symm]
  exact hx

/-- From a fresh store, in every run that names each new task anew and reads its clock within the
dates, a lease that is neither finished nor taken keeps its owner and its attempts, and a sweep
takes it exactly when it was last refreshed before the timeout. -/
theorem lease_after (hfresh : s.store.IsFresh) (before : List TimedServiceCall)
    (e : TimedServiceCall) (later : List TimedServiceCall)
    (hids : (createdIds (before ++ e :: later)).Nodup)
    (hdated : ∀ c ∈ before ++ e :: later, c.Dated) (h : s.Standing before e later t) :
    (∃ worker, e.call = .dequeue worker ∧ t.worker = some worker) ∧ t.status = .inProgress ∧
      ∃ u, s.Stands (before ++ e :: later) t u := by
  have hmirrors : ∀ {history}, (createdIds history).Nodup →
      (s.after history).Mirrors (s.onLedger.after history) := fun hids => mirrors_after hfresh hids
  have hbefore : (createdIds before).Nodup := by
    rw [createdIds, List.filter_append, List.map_append] at hids
    exact (List.nodup_append.mp hids).1
  obtain ⟨hworker, hs, hrefreshes, hleased⟩ := (hmirrors hbefore).leased h.leased
  refine ⟨hworker, hs, ?_⟩
  suffices hrun : ∃ u : Timestamp, (0 ≤ u.toInt ∧ u.toInt ≤ 2 ^ 46) ∧
      s.refreshed? (before ++ e :: later) t.id = some u ∧
      (s.onLedger.after (before ++ e :: later)).store.get? t.id
        = some { t with updatedAt := u } by
    obtain ⟨u, hu, hrefreshed, hstored⟩ := hrun
    have hreach := (hmirrors hids).reaches hfresh hids
    have hstatus : ({ t with updatedAt := u } : Task).status = .inProgress := hs
    refine ⟨u, hrefreshed, ?_, fun c n hc hn => ?_⟩
    · rw [(hmirrors hids).store.task?_eq, hstored]
    · rw [(hmirrors hids).takes_iff hstored hstatus hn, hreach.settings,
        expired_iff hstatus (hc.sweepTime hn) hu]
  induction later using List.reverseRecOn with
  | nil =>
      refine ⟨e.now, (hdated e (by simp)).now, ?_, ?_⟩
      · rw [refreshed?_append_singleton, hrefreshes]
        rfl
      · rw [after_append_singleton, hleased]
  | append_singleton later c ih =>
      have hsnoc : before ++ e :: (later ++ [c]) = (before ++ e :: later) ++ [c] := by simp
      rw [hsnoc] at hids hdated ⊢
      obtain ⟨hids', hnew⟩ := nodup_created_append_singleton hids
      obtain ⟨u, hu, hrefreshed, hstored⟩ :=
        ih hids' (fun c' hc' => hdated c' (List.mem_append_left _ hc')) h.init
      have hm := hmirrors hids'
      have hnext := h.next hm (hm.get?_eq_none hfresh hids' hnew) hs hstored
      refine ⟨((s.after (before ++ e :: later)).refreshes? c t.id).getD u, ?_, ?_, ?_⟩
      · rw [refreshes?]
        split_ifs
        · exact (hdated c (by simp)).now
        · exact hu
      · rw [refreshed?_append_singleton, hrefreshed]
        cases (s.after (before ++ e :: later)).refreshes? c t.id <;> rfl
      · rw [after_append_singleton, hnext]

/-- A queue over a keyspace, with leases of three milliseconds. -/
def patientQueue : Service TaskStore := ⟨.keyspace (.empty "queue"), ⟨3, 2⟩, .none, .none⟩

/-- Its task as it is leased at 7. -/
def patientTask : Task := ⟨"a", "mail", "hello", ∅, .inProgress, 5, 7, none, some "v", 1⟩

/-- The lease is refreshed, and swept at the last moment at which it has not expired. -/
def patientLater : List TimedServiceCall := [⟨"", 9, 9, .heartbeat "a"⟩, ⟨"", 12, 12, .recover⟩]

/-- The calls that store the task, lease it and keep the lease. -/
def patientHistory : List TimedServiceCall :=
  [⟨"a", 5, 5, .enqueue "mail" "hello" ∅⟩] ++ ⟨"", 6, 7, .dequeue "v"⟩ :: patientLater

lemma standing_patientTask :
    patientQueue.Standing [⟨"a", 5, 5, .enqueue "mail" "hello" ∅⟩] ⟨"", 6, 7, .dequeue "v"⟩
      patientLater patientTask where
  leased := by decide +kernel
  unfinished mid c rest hlater := by
    rintro ⟨⟨success, result, hc⟩, -⟩
    have hmem : c ∈ patientLater := by rw [hlater]; simp
    simp only [patientLater, List.mem_cons, List.not_mem_nil, or_false] at hmem
    rcases hmem with rfl | rfl <;> cases hc
  untaken mid c rest hlater := by
    rintro ⟨n, t, t', hn, -, -, ht', hended⟩
    have hkept : ((patientQueue.after ([⟨"a", 5, 5, .enqueue "mail" "hello" ∅⟩] ++
        [⟨"", 6, 7, .dequeue "v"⟩, ⟨"", 9, 9, .heartbeat "a"⟩])).recover 12).2.store.task? "a"
          = some { patientTask with updatedAt := 9 } := by decide +kernel
    rcases mid with _ | ⟨_, _ | ⟨_, mid⟩⟩
    · obtain ⟨rfl, -⟩ := List.cons.inj hlater
      cases hn
    · obtain ⟨rfl, hrest⟩ := List.cons.inj hlater
      obtain ⟨rfl, -⟩ := List.cons.inj hrest
      obtain rfl := Option.some.inj hn
      obtain rfl := Option.some.inj (hkept.symm.trans ht')
      simp [patientTask] at hended
    · simp [patientLater] at hlater

/-- A moment later the lease has expired. -/
theorem lease_patientHistory :
    patientQueue.store.IsFresh ∧ (createdIds patientHistory).Nodup ∧
      (∀ c ∈ patientHistory, c.Dated) ∧
      patientQueue.Standing [⟨"a", 5, 5, .enqueue "mail" "hello" ∅⟩] ⟨"", 6, 7, .dequeue "v"⟩
        patientLater patientTask ∧
      patientQueue.Stands patientHistory patientTask 9 ∧
      ¬ (patientQueue.after patientHistory).Takes ⟨"", 12, 12, .recover⟩ "a" ∧
      (patientQueue.after patientHistory).Takes ⟨"", 13, 13, .recover⟩ "a" := by
  have hfresh : patientQueue.store.IsFresh := .keyspace "queue"
  have hids : (createdIds patientHistory).Nodup := by decide
  have hdated : ∀ c ∈ patientHistory, c.Dated := by
    intro c hc
    simp only [patientHistory, patientLater, List.cons_append, List.nil_append, List.mem_cons,
      List.not_mem_nil, or_false] at hc
    rcases hc with rfl | rfl | rfl | rfl <;> exact ⟨by decide, by decide⟩
  obtain ⟨-, -, u, hstands⟩ := lease_after hfresh _ _ _ hids hdated standing_patientTask
  have hu : patientQueue.refreshed? patientHistory "a" = some 9 := by decide +kernel
  obtain rfl := Option.some.inj (hu.symm.trans hstands.refreshed?_eq)
  refine ⟨hfresh, hids, hdated, standing_patientTask, hstands, ?_, ?_⟩
  · refine (hstands.takes_iff _ 12 ⟨by decide, by decide⟩ rfl).not.mpr ?_
    decide
  · refine (hstands.takes_iff _ 13 ⟨by decide, by decide⟩ rfl).mpr ?_
    decide

end Service

end LeaseQueue
