/-
What holds of the stored tasks after every run of service calls.

* `Task.WellFormed`, `Task.Within`: which fields a task has in its status, and how many attempts;
  `Task.Changes.wellFormed`, `Task.Changes.within` and `Task.Changes.attempts` keep them call by
  call;
* `Ledger.Regular`: so are all tasks, and their attempts count the leases handed out;
  `Ledger.Regular.step`: whatever a call may do, that stays;
* `Service.after`, `Service.leases`: a run of service calls and the tasks leased in it;
* `Service.Reaches.next`, `Service.reaches`: a run leads from regular tasks to regular tasks.
-/
import LeaseQueue.Proofs.Clients.Transition
import LeaseQueue.Proofs.Service.Calls

namespace LeaseQueue

/-! ### One task -/

namespace Task

/-- A task has an owner while it is leased, and a result, if any, once it is finished. -/
structure WellFormed (t : Task) : Prop where
  worker : t.worker ≠ none ↔ t.status = .inProgress
  result : t.result ≠ none → t.status.isTerminal = true
  nonempty : t.result ≠ some ""

/-- A task has used no more attempts than a limit. One that waits has one left, one that is leased
has used one. -/
structure Within (limit : UInt32) (t : Task) : Prop where
  attempts_le : t.attempts ≤ limit
  waiting : t.status = .pending → t.attempts < limit
  leased : t.status = .inProgress → 1 ≤ t.attempts

variable {limit : UInt32} {now : Timestamp} {c : Call} {r : Except StoreError Outcome}
  {t t' : Task}

lemma WellFormed.result_eq_none (h : t.WellFormed) (hs : t.status.isTerminal = false) :
    t.result = none := by
  by_contra hresult
  simp [h.result hresult] at hs

lemma of_new_eq_ok {id type payload : String} {metadata : Metadata}
    (h : Task.new id now type payload metadata = .ok t) :
    t = ⟨id, type, payload, metadata, .pending, now, now, none, none, 0⟩ := by
  rw [Task.new] at h
  split_ifs at h
  exact (Except.ok.inj h).symm

lemma of_finish_eq_ok {success : Bool} {result : Option String}
    (h : t.finish success result now = .ok t') :
    t.status.isTerminal = false ∧
      t' = { t with status := if success then .completed else .failed,
                    result := result.filter (· ≠ ""), worker := none, updatedAt := now } := by
  rw [finish] at h
  by_cases hs : t.status.isTerminal = true
  · simp [hs] at h
  · rw [if_neg hs] at h
    exact ⟨by simpa using hs, (Except.ok.inj h).symm⟩

lemma status_of_isOverdue {threshold : Timestamp} (h : t.isOverdue threshold = true) :
    t.status = .inProgress := by
  simp only [isOverdue, Bool.and_eq_true, decide_eq_true_eq] at h
  exact h.1

lemma wellFormed_new {id type payload : String} {metadata : Metadata}
    (h : Task.new id now type payload metadata = .ok t) : t.WellFormed := by
  rw [of_new_eq_ok h]
  exact ⟨by simp, by simp, by simp⟩

lemma within_new {id type payload : String} {metadata : Metadata} (hlimit : 1 ≤ limit)
    (h : Task.new id now type payload metadata = .ok t) : t.attempts = 0 ∧ t.Within limit := by
  rw [of_new_eq_ok h]
  refine ⟨rfl, UInt32.zero_le, fun _ => ?_, by simp⟩
  exact UInt32.lt_of_lt_of_le UInt32.zero_lt_one hlimit

/-- A waiting task within a limit has room for one more attempt. -/
lemma Within.toNat_claim (h : t.Within limit) (hs : t.status = .pending) (worker : String)
    (now : Timestamp) : (t.claim worker now).attempts.toNat = t.attempts.toNat + 1 := by
  have hlt := UInt32.lt_iff_toNat_lt.mp (h.waiting hs)
  have hsize := limit.toNat_lt
  simp only [claim, UInt32.toNat_add, UInt32.toNat_one]
  omega

/-! ### What a call keeps of one task -/

namespace Changes

/-- The status changes along an edge, if at all. -/
lemma follows (h : Changes now c r t t') : Task.Follows t t' := by
  cases h with
  | kept => exact .refl t
  | leased worker hs =>
      have hact : Transition.act? (.claim worker now) t = some (t.claim worker now) := if_pos hs
      exact Transition.follows_act? hact
  | @finished success result t t' h =>
      have hact : Transition.act? (.finish success result now) t = some t' := by
        rw [Transition.act?, h, Except.toOption]
      exact Transition.follows_act? hact
  | refreshed =>
      have hact : Transition.act? (.touch now) t = some (t.touch now) := rfl
      exact Transition.follows_act? hact
  | @expired maxAge maxAttempts t report ho =>
      have hs := status_of_isOverdue ho
      have hexhaust : Transition.act? (.exhaust now) t = some (t.exhaust now) := if_pos hs
      have hrequeue : Transition.act? (.requeue now) t = some (t.requeue now) := if_pos hs
      rw [expire]
      split_ifs
      · exact Transition.follows_act? hexhaust
      · exact Transition.follows_act? hrequeue

lemma wellFormed (h : Changes now c r t t') (ht : t.WellFormed) : t'.WellFormed := by
  cases h with
  | kept => exact ht
  | leased worker hs =>
      refine ⟨by simp [claim], fun hresult => absurd ?_ hresult, ht.nonempty⟩
      exact ht.result_eq_none (by simp [hs, Status.isTerminal])
  | @finished success _ _ _ h =>
      obtain ⟨-, rfl⟩ := of_finish_eq_ok h
      refine ⟨?_, fun _ => ?_, by simp [Option.filter_eq_some_iff]⟩
      · cases success <;> simp
      · cases success <;> rfl
  | refreshed => exact ⟨ht.worker, ht.result, ht.nonempty⟩
  | @expired maxAge maxAttempts t report ho =>
      rw [expire]
      split_ifs
      · exact ⟨by simp [exhaust], fun _ => rfl, by simp [exhaust, attemptsExceeded]⟩
      · refine ⟨by simp [requeue], fun hresult => absurd ?_ hresult, ht.nonempty⟩
        exact ht.result_eq_none (by simp [status_of_isOverdue ho, Status.isTerminal])

/-- The attempts of a task go up by one where the call leases it, and stay otherwise. -/
lemma attempts (h : Changes now c r t t') (ht : t.Within limit) :
    t'.attempts.toNat
      = t.attempts.toNat + (c.leased? r).toList.countP (fun u => u.id = t.id) := by
  cases h with
  | kept h =>
      have hnone : (c.leased? r).toList.countP (fun u => u.id = t.id) = 0 := by
        rw [List.countP_eq_zero]
        intro u hu
        simpa using h u (Option.mem_toList.mp hu)
      rw [hnone, Nat.add_zero]
  | leased worker hs =>
      rw [ht.toNat_claim hs]
      simp [Call.leased?, claim]
  | finished h =>
      obtain ⟨-, rfl⟩ := of_finish_eq_ok h
      rfl
  | refreshed => rfl
  | expired maxAttempts report ho =>
      rw [expire]
      split_ifs <;> rfl

lemma within (h : Changes now c r t t') (ht : t.Within limit)
    (hmax : ∀ maxAge maxAttempts, c = .recover maxAge maxAttempts → maxAttempts ≤ limit) :
    t'.Within limit := by
  cases h with
  | kept => exact ht
  | leased worker hs =>
      have hclaim := ht.toNat_claim hs worker now
      have hlt := UInt32.lt_iff_toNat_lt.mp (ht.waiting hs)
      refine ⟨?_, by simp [claim], fun _ => ?_⟩
      · rw [UInt32.le_iff_toNat_le]
        omega
      · rw [UInt32.le_iff_toNat_le, hclaim, UInt32.toNat_one]
        omega
  | @finished success _ _ _ h =>
      obtain ⟨-, rfl⟩ := of_finish_eq_ok h
      exact ⟨ht.attempts_le, by cases success <;> simp, by cases success <;> simp⟩
  | refreshed => exact ⟨ht.attempts_le, ht.waiting, ht.leased⟩
  | @expired maxAge maxAttempts t report ho =>
      rw [expire]
      split_ifs with hx
      · exact ⟨ht.attempts_le, by simp [exhaust], by simp [exhaust]⟩
      · refine ⟨ht.attempts_le, fun _ => ?_, by simp [requeue]⟩
        rw [attemptsExhausted, decide_eq_true_eq, UInt32.not_le] at hx
        exact UInt32.lt_of_lt_of_le hx (hmax _ _ rfl)

end Changes

end Task

/-! ### All tasks -/

namespace Ledger

variable {limit : UInt32} {L L' : Ledger} {id : String} {now : Timestamp} {c : Call}
  {r : Except StoreError Outcome} {leases : List Task}

/-- Every task is well formed and within the limit, and its attempts are its leases. -/
structure Regular (limit : UInt32) (leases : List Task) (L : Ledger) : Prop where
  wellFormed : ∀ {id t}, L.get? id = some t → t.WellFormed
  within : ∀ {id t}, L.get? id = some t → t.Within limit
  counted : ∀ {id t}, L.get? id = some t → leases.countP (fun u => u.id = id) = t.attempts.toNat
  unleased : ∀ {id}, L.get? id = none → leases.countP (fun u => u.id = id) = 0

lemma regular_empty : Regular limit [] .empty :=
  ⟨fun h => by simp at h, fun h => by simp at h, fun h => by simp at h, fun _ => rfl⟩

/-- Only a stored task is leased. -/
lemma May.get?_of_leased? (h : L.May id now c r L') {u : Task} (hu : c.leased? r = some u) :
    L.get? u.id ≠ none := by
  cases h with
  | leased worker ht hs =>
      obtain rfl := Option.some.inj hu
      exact Option.ne_none_iff_exists'.mpr ⟨_, ht⟩
  | _ => simp [Call.leased?] at hu

/-- Whatever a call may do, tasks stay regular. -/
theorem Regular.step (h : Regular limit leases L) (hlimit : 1 ≤ limit)
    (hmay : L.May id now c r L') (hnew : c.isEnqueue = true → L.get? id = none)
    (hmax : ∀ maxAge maxAttempts, c = .recover maxAge maxAttempts → maxAttempts ≤ limit) :
    Regular limit (leases ++ (c.leased? r).toList) L' := by
  have hunleased : ∀ {i}, L.get? i = none →
      (leases ++ (c.leased? r).toList).countP (fun u => u.id = i) = 0 := by
    intro i hi
    rw [List.countP_append, h.unleased hi, Nat.zero_add, List.countP_eq_zero]
    intro u hu hid
    obtain rfl : u.id = i := by simpa using hid
    exact hmay.get?_of_leased? (Option.mem_toList.mp hu) hi
  -- a task after the call is one from before, changed, or new
  have hcases : ∀ {i t'}, L'.get? i = some t' →
      (∃ t, L.get? i = some t ∧ t.id = i ∧ Task.Changes now c r t t') ∨
        L.get? i = none ∧ ∃ type payload metadata,
          Task.new id now type payload metadata = .ok t' := by
    intro i t' ht'
    cases hi : L.get? i with
    | none =>
        obtain ⟨type, payload, metadata, -, ht⟩ := hmay.created hi ht'
        exact .inr ⟨rfl, type, payload, metadata, ht⟩
    | some t =>
        obtain ⟨t'', ht'', hchanges⟩ := hmay.changes hnew hi
        obtain rfl := Option.some.inj (ht''.symm.trans ht')
        exact .inl ⟨t, rfl, id_of_get? hi, hchanges⟩
  refine ⟨fun ht' => ?_, fun ht' => ?_, fun ht' => ?_, fun {i} hi' => hunleased ?_⟩
  · obtain ⟨t, ht, -, hchanges⟩ | ⟨-, _, _, _, ht⟩ := hcases ht'
    · exact hchanges.wellFormed (h.wellFormed ht)
    · exact Task.wellFormed_new ht
  · obtain ⟨t, ht, -, hchanges⟩ | ⟨-, _, _, _, ht⟩ := hcases ht'
    · exact hchanges.within (h.within ht) hmax
    · exact (Task.within_new hlimit ht).2
  · obtain ⟨t, ht, rfl, hchanges⟩ | ⟨hi, _, _, _, ht⟩ := hcases ht'
    · rw [List.countP_append, h.counted ht, hchanges.attempts (h.within ht)]
    · rw [hunleased hi, (Task.within_new hlimit ht).1]
      rfl
  · cases hi : L.get? i with
    | none => rfl
    | some t =>
        obtain ⟨t', ht', -⟩ := hmay.changes hnew hi
        simp [ht'] at hi'

/-- A sweep leases nothing. -/
lemma Regular.sweep {M : Ledger} {maxAge : Int64} {maxAttempts : UInt32}
    (h : Regular limit leases L) (hlimit : 1 ≤ limit) (hmax : maxAttempts ≤ limit)
    (hmay : L.May id now (.recover maxAge maxAttempts) r M) : Regular limit leases M := by
  have hstep := h.step hlimit hmay (by simp [Call.isEnqueue]) fun _ _ hc =>
    (Call.recover.inj hc).2 ▸ hmax
  rwa [show Call.leased? _ r = none from rfl, Option.toList_none, List.append_nil] at hstep

end Ledger

/-! ### Runs -/

/-- The ids of the tasks that a run may create. -/
def TimedServiceCall.createdIds (history : List TimedServiceCall) : List String :=
  (history.filter fun e => e.call.isEnqueue).map TimedServiceCall.id

namespace Service

open TimedServiceCall

/-- The service after a run of calls, each made whole before the next one begins. -/
def after {σ : Type} [Storage σ] (s : Service σ) (history : List TimedServiceCall) : Service σ :=
  history.foldl (fun s e => (s.serve e).2) s

/-- The tasks that a run leases, as they are returned. -/
def leases {σ : Type} [Storage σ] : Service σ → List TimedServiceCall → List Task
  | _, [] => []
  | s, e :: history => (e.call.leased? (s.serve e).1).toList ++ (s.serve e).2.leases history

lemma after_append_singleton {σ : Type} [Storage σ] (s : Service σ)
    (history : List TimedServiceCall) (e : TimedServiceCall) :
    s.after (history ++ [e]) = ((s.after history).serve e).2 := by
  rw [after, List.foldl_append]
  rfl

lemma leases_append_singleton {σ : Type} [Storage σ] (s : Service σ)
    (history : List TimedServiceCall) (e : TimedServiceCall) :
    s.leases (history ++ [e])
      = s.leases history ++ (e.call.leased? ((s.after history).serve e).1).toList := by
  induction history generalizing s with
  | nil => rw [List.nil_append, leases, leases, leases, List.append_nil]; rfl
  | cons e' history ih =>
      rw [List.cons_append, leases, ih, leases, List.append_assoc]
      rfl

variable {s : Service TaskStore} {history : List TimedServiceCall} {limit : UInt32} {L : Ledger}

/-- A run leads to regular tasks, with ids of its own. -/
structure Reaches (s : Service TaskStore) (limit : UInt32) (history : List TimedServiceCall)
    (L : Ledger) : Prop where
  holds : (s.after history).store.Holds L
  settings : (s.after history).settings = s.settings
  regular : L.Regular limit (s.leases history)
  created : ∀ {id t}, L.get? id = some t → id ∈ createdIds history

/-- One more call of a run: first the sweep, if it is a dequeue, and then what is asked for. -/
structure Step (s : Service TaskStore) (limit : UInt32) (history : List TimedServiceCall)
    (e : TimedServiceCall) (L M L' : Ledger) (r r' : Except StoreError Outcome) : Prop where
  holds : ((s.after history).prepared e).store.Holds M
  sweep : L.May e.id e.swept (.recover s.settings.visibilityTimeout s.settings.maxAttempts) r M
  regular : M.Regular limit (s.leases history)
  fresh : (e.call.toCall s.settings).isEnqueue = true → M.get? e.id = none
  answer : ((s.after history).serve e).1 = r'.mapError StoreError.toTaskError
  call : M.May e.id e.now (e.call.toCall s.settings) r' L'
  reaches : s.Reaches limit (history ++ [e]) L'

/-- From regular tasks every call leads to regular tasks. -/
theorem Reaches.next (h : s.Reaches limit history L) (hlimit : 1 ≤ limit)
    (hmax : s.settings.maxAttempts ≤ limit) {e : TimedServiceCall}
    (hnew : e.call.isEnqueue = true → e.id ∉ createdIds history) :
    ∃ M L' r r', s.Step limit history e L M L' r r' := by
  have hfresh : e.call.isEnqueue = true → L.get? e.id = none := by
    intro he
    rw [Option.eq_none_iff_forall_ne_some]
    exact fun t ht => hnew he (h.created ht)
  obtain ⟨r, M, hprepared, hholds, hsweep, r', L', hanswer, hsettings, hholds', hcall⟩ :=
    serves_serve h.holds e hfresh
  rw [h.settings] at hsweep hcall
  -- a sweep creates no task
  have hstored : ∀ {i t}, M.get? i = some t → i ∈ createdIds history := by
    intro i t ht
    cases hi : L.get? i with
    | none =>
        obtain ⟨_, _, _, hc, -⟩ := hsweep.created hi ht
        simp at hc
    | some u => exact h.created hi
  have hfresh' : (e.call.toCall s.settings).isEnqueue = true → M.get? e.id = none := by
    rw [ServiceCall.isEnqueue_toCall, Option.eq_none_iff_forall_ne_some]
    exact fun he t ht => hnew he (hstored ht)
  have hswept := h.regular.sweep hlimit hmax hsweep
  have hmax' : ∀ maxAge maxAttempts, e.call.toCall s.settings = .recover maxAge maxAttempts →
      maxAttempts ≤ limit := by
    intro maxAge maxAttempts hc
    cases hcall : e.call with
    | recover =>
        rw [hcall] at hc
        exact (Call.recover.inj hc).2 ▸ hmax
    | _ =>
        simp [hcall, ServiceCall.toCall] at hc
  have hregular := hswept.step hlimit hcall hfresh' hmax'
  rw [← ServiceCall.leased?_toCall, ← hanswer, ← leases_append_singleton] at hregular
  refine ⟨M, L', r, r', hholds, hsweep, hswept, hfresh', hanswer, hcall, ?_, ?_, hregular,
    fun {i t} ht => ?_⟩
  · rwa [after_append_singleton]
  · rw [after_append_singleton, hsettings]
    exact hprepared.trans h.settings
  · rw [createdIds, List.filter_append, List.map_append, List.mem_append]
    cases hi : M.get? i with
    | some u => exact .inl (hstored hi)
    | none =>
        obtain ⟨_, _, _, hc, ht'⟩ := hcall.created hi ht
        rw [← Ledger.id_of_get? ht, (Task.of_new ht').1]
        have he : e.call.isEnqueue = true := by
          rw [← ServiceCall.isEnqueue_toCall s.settings, hc]
          rfl
        exact .inr (by simp [he])

/-- The greatest number of attempts is no limit. -/
lemma maxAttempts_le (n : UInt32) : n ≤ 4294967295 := by
  have hlt := n.toNat_lt
  rw [UInt32.le_iff_toNat_le]
  exact Nat.le_of_lt_succ hlt

/-- A run from a store without tasks that names each new task anew leads to regular tasks. -/
theorem reaches (hempty : s.store.IsEmpty) (hlimit : 1 ≤ limit)
    (hmax : s.settings.maxAttempts ≤ limit) (hids : (createdIds history).Nodup) :
    ∃ L, s.Reaches limit history L := by
  induction history using List.reverseRecOn with
  | nil => exact ⟨.empty, hempty.holds, rfl, Ledger.regular_empty, fun ht => by simp at ht⟩
  | append_singleton history e ih =>
      obtain ⟨hbefore, hnew⟩ := nodup_created_append_singleton hids
      obtain ⟨L, h⟩ := ih hbefore
      obtain ⟨_, L', _, _, hstep⟩ := h.next hlimit hmax hnew
      exact ⟨L', hstep.reaches⟩

end Service

end LeaseQueue
