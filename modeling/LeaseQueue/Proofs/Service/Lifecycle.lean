/-
The life of a task over a run of service calls.

* `Task.Lives`: what one step may change of a stored task;
* `Task.Changes.lives`: a storage call changes a task so;
* `Service.Lifecycle`: so do both halves of a service call, the sweep before a lease and the call
  itself, to every stored task; a task that was not stored before is a new one;
* `Service.lifecycle_after`: that is what every call of every run does, on a store of either kind.
-/
import LeaseQueue.Proofs.Service.History

namespace LeaseQueue

/-! ### One task -/

namespace Task

/-- How a stored task may change. Where the step returns it from a dequeue its attempts go up, and
a finished task changes by a refresh at most. -/
structure Lives (leased refreshed : Prop) (t t' : Task) : Prop where
  identity : SameIdentity t' t
  status : t'.status = t.status ∨ Status.Next t.status t'.status
  attempts_succ : leased → t'.attempts.toNat = t.attempts.toNat + 1
  attempts_eq : ¬ leased → t'.attempts = t.attempts
  finished : t.status.isTerminal = true → t' = t ∨ refreshed ∧ t' = t.touch t'.updatedAt

variable {limit : UInt32} {now : Timestamp} {c : Call} {r : Except StoreError Outcome}
  {t t' : Task} {P P' Q Q' : Prop}

lemma Lives.congr (h : Lives P Q t t') (hP : P' ↔ P) (hQ : Q → Q') : Lives P' Q' t t' where
  identity := h.identity
  status := h.status
  attempts_succ hleased := h.attempts_succ (hP.mp hleased)
  attempts_eq hleased := h.attempts_eq fun hp => hleased (hP.mpr hp)
  finished hs := (h.finished hs).imp_right fun htouch => ⟨hQ htouch.1, htouch.2⟩

/-- An optional task has an id once or never. -/
lemma countP_toList (o : Option Task) (id : String) [Decidable (∃ u, o = some u ∧ u.id = id)] :
    o.toList.countP (fun u => u.id = id) = if ∃ u, o = some u ∧ u.id = id then 1 else 0 := by
  cases o with
  | none => simp
  | some u => by_cases hid : u.id = id <;> simp [hid]

namespace Changes

lemma finished_eq (h : Changes now c r t t') (hs : t.status.isTerminal = true) :
    t' = t ∨ c = .heartbeat t.id ∧ t' = t.touch t'.updatedAt := by
  cases h with
  | kept => exact .inl rfl
  | leased worker hpending => simp [hpending, Status.isTerminal] at hs
  | finished h => simp [(of_finish_eq_ok h).1] at hs
  | refreshed => exact .inr ⟨rfl, rfl⟩
  | expired maxAttempts report ho => simp [status_of_isOverdue ho, Status.isTerminal] at hs

/-- A storage call changes a task as it may change. -/
lemma lives (h : Changes now c r t t') (ht : t.Within limit) :
    Lives (∃ u, c.leased? r = some u ∧ u.id = t.id) (c = .heartbeat t.id) t t' := by
  classical
  have hattempts := h.attempts ht
  rw [countP_toList] at hattempts
  refine ⟨h.follows.identity, h.follows.status, fun hleased => ?_, fun hleased => ?_, h.finished_eq⟩
  · rw [hattempts, if_pos hleased]
  · rw [← UInt32.toNat_inj, hattempts, if_neg hleased, Nat.add_zero]

end Changes

end Task

/-! ### Runs -/

namespace Service

open TimedServiceCall

/-- What a call of a run does to the stored tasks: none disappears, and each changes as it may,
first by the sweep of a dequeue and then by the call itself. -/
structure Lifecycle (s : Service TaskStore) (e : TimedServiceCall) : Prop where
  wellFormed : ∀ id t, s.store.task? id = some t → t.WellFormed
  lives : ∀ id t, s.store.task? id = some t → ∃ u t',
    (s.prepared e).store.task? id = some u ∧ (s.serve e).2.store.task? id = some t' ∧
      t.Lives False False u ∧
      u.Lives (∃ v, e.call.leased? (s.serve e).1 = some v ∧ v.id = id) (e.call = .heartbeat id) t'
  created : ∀ id t, s.store.task? id = none → (s.serve e).2.store.task? id = some t →
    ∃ type payload metadata, e.call = .enqueue type payload metadata ∧
      Task.new e.id e.now type payload metadata = .ok t

lemma toCall_eq_heartbeat {settings : QueueSettings} {call : ServiceCall} {id : String}
    (h : call.toCall settings = .heartbeat id) : call = .heartbeat id := by
  cases call with
  | heartbeat id' => exact congrArg ServiceCall.heartbeat (Call.heartbeat.inj h)
  | _ => simp [ServiceCall.toCall] at h

lemma toCall_eq_enqueue {settings : QueueSettings} {call : ServiceCall} {type payload : String}
    {metadata : Metadata} (h : call.toCall settings = .enqueue type payload metadata) :
    call = .enqueue type payload metadata := by
  cases call with
  | enqueue type' payload' metadata' =>
      obtain ⟨rfl, rfl, rfl⟩ := Call.enqueue.inj h
      rfl
  | _ => simp [ServiceCall.toCall] at h

variable {s : Service TaskStore} {history : List TimedServiceCall} {e : TimedServiceCall}
  {limit : UInt32} {L M L' : Ledger} {r r' : Except StoreError Outcome}

/-- The task under an id lives on through a step. -/
lemma Step.lives (h : s.Step limit history e L M L' r r') (hreach : s.Reaches limit history L)
    {id : String} {t : Task} (ht : L.get? id = some t) :
    ∃ u t', M.get? id = some u ∧ L'.get? id = some t' ∧ t.Lives False False u ∧
      u.Lives (∃ v, e.call.leased? ((s.after history).serve e).1 = some v ∧ v.id = id)
        (e.call = .heartbeat id) t' := by
  obtain ⟨u, hu, hsweep⟩ := h.sweep.changes (by simp [Call.isEnqueue]) ht
  obtain ⟨t', ht', hcall⟩ := h.call.changes h.fresh hu
  refine ⟨u, t', hu, ht', ?_, ?_⟩
  · refine (hsweep.lives (hreach.regular.within ht)).congr ?_ (by simp)
    simp [Call.leased?]
  · obtain rfl := Ledger.id_of_get? hu
    refine (hcall.lives (h.regular.within hu)).congr ?_ toCall_eq_heartbeat
    rw [h.answer, ServiceCall.leased?_toCall]

/-- A task that a step creates is a new one. -/
lemma Step.created (h : s.Step limit history e L M L' r r') {id : String} (hid : L.get? id = none)
    {t : Task} (ht : L'.get? id = some t) :
    ∃ type payload metadata, e.call = .enqueue type payload metadata ∧
      Task.new e.id e.now type payload metadata = .ok t := by
  cases hM : M.get? id with
  | some u =>
      obtain ⟨_, _, _, hc, -⟩ := h.sweep.created hid hM
      simp at hc
  | none =>
      obtain ⟨type, payload, metadata, hc, hnew⟩ := h.call.created hM ht
      exact ⟨type, payload, metadata, toCall_eq_enqueue hc, hnew⟩

/-- From a store of either kind without tasks, whatever its reads and commits do, every run that
names each new task anew leaves well-formed tasks, and its next call changes them as it may. -/
theorem lifecycle_after (hempty : s.store.IsEmpty) (history : List TimedServiceCall)
    (e : TimedServiceCall) (hids : (createdIds (history ++ [e])).Nodup) :
    (s.after history).Lifecycle e := by
  obtain ⟨hbefore, hnew⟩ := nodup_created_append_singleton hids
  -- no number of attempts that fits is out of reach
  have hmax : s.settings.maxAttempts ≤ 4294967295 := by
    have hlt := s.settings.maxAttempts.toNat_lt
    rw [UInt32.le_iff_toNat_le]
    exact Nat.le_of_lt_succ hlt
  obtain ⟨L, hreach⟩ := reaches hempty (by decide) hmax hbefore
  obtain ⟨M, L', r, r', hstep⟩ := hreach.next (by decide) hmax hnew
  have hafter : ((s.after history).serve e).2.store.Holds L' := by
    rw [← after_append_singleton]
    exact hstep.reaches.holds
  refine ⟨fun id t ht => ?_, fun id t ht => ?_, fun id t hid ht => ?_⟩
  · rw [hreach.holds.task?_eq] at ht
    exact hreach.regular.wellFormed ht
  · rw [hreach.holds.task?_eq] at ht
    simp only [hstep.holds.task?_eq, hafter.task?_eq]
    exact hstep.lives hreach ht
  · rw [hreach.holds.task?_eq] at hid
    rw [hafter.task?_eq] at ht
    exact hstep.created hid ht

/-- A queue over a keyspace, with leases of three milliseconds and two attempts. -/
def shortLeases : Service TaskStore :=
  ⟨.keyspace (.empty "queue"), ⟨3, 2⟩, .none, .none⟩

/-- One task is leased. -/
def leasedHistory : List TimedServiceCall :=
  [⟨"a", 5, 5, .enqueue "mail" "hello" ∅⟩, ⟨"", 6, 7, .dequeue "v"⟩]

/-- The lease has expired; the sweep ends it and the task is leased again. -/
def secondLease : TimedServiceCall := ⟨"", 20, 19, .dequeue "w"⟩

theorem lifecycle_leasedHistory :
    shortLeases.store.IsEmpty ∧ (createdIds (leasedHistory ++ [secondLease])).Nodup ∧
      (shortLeases.after leasedHistory).Lifecycle secondLease ∧
      ((shortLeases.after leasedHistory).store.task? "a").map
        (fun t => (t.status, t.worker, t.attempts)) = some (.inProgress, some "v", 1) ∧
      (((shortLeases.after leasedHistory).prepared secondLease).store.task? "a").map
        (fun t => (t.status, t.worker, t.attempts)) = some (.pending, none, 1) ∧
      (((shortLeases.after leasedHistory).serve secondLease).2.store.task? "a").map
        (fun t => (t.status, t.worker, t.attempts)) = some (.inProgress, some "w", 2) := by
  have hempty : shortLeases.store.IsEmpty := .keyspace "queue" rfl
  have hids : (createdIds (leasedHistory ++ [secondLease])).Nodup := by decide
  refine ⟨hempty, hids, lifecycle_after hempty leasedHistory secondLease hids, ?_, ?_, ?_⟩
  all_goals decide +kernel

end Service

end LeaseQueue
