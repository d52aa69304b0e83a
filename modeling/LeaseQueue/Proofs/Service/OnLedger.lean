/-
What the calls of a service do on a ledger.

* `Timestamp.toInt_before`: the difference of two times, held within 64 bits;
* `QueueSettings.Expired`, `QueueSettings.Leasable`, `QueueSettings.sweep`: which leases a sweep
  ends, which tasks may be leased after it, and what it makes of a task;
* `Ledger.get?_recover`, `Ledger.dequeue_cases`, `Ledger.update_cases`: sweeps, leases and
  transitions of a ledger;
* `Service.recover_ledger` to `Service.serve_dequeue_ledger`: the calls of a service on a ledger are
  those of the ledger.
-/
import LeaseQueue.Proofs.Service.Mirror

namespace LeaseQueue

/-! ### Expired leases -/

lemma Timestamp.toInt_before (now age : Int64) :
    (Timestamp.before now age).toInt
      = max (-2 ^ 63) (min (2 ^ 63 - 1) (now.toInt - age.toInt)) := by
  have hmin : Int64.minValue.toInt = -2 ^ 63 := by decide
  have hmax : Int64.maxValue.toInt = 2 ^ 63 - 1 := by decide
  rw [before]
  split_ifs with hlow hhigh
  · rw [hmin] at hlow ⊢
    omega
  · rw [hmax] at hhigh ⊢
    omega
  · rw [Int64.toInt_ofInt_of_le] <;> omega

namespace QueueSettings

variable {q : QueueSettings} {now : Timestamp} {t : Task}

/-- A lease has expired: it was last refreshed before the timeout, counted within 64 bits. -/
def Expired (q : QueueSettings) (now : Timestamp) (t : Task) : Prop :=
  t.status = .inProgress ∧
    t.updatedAt.toInt < max (-2 ^ 63) (min (2 ^ 63 - 1) (now.toInt - q.visibilityTimeout.toInt))

instance (q : QueueSettings) (now : Timestamp) : DecidablePred (q.Expired now) :=
  fun _ => inferInstanceAs (Decidable (_ ∧ _))

/-- A task may be leased: it waits, or its lease has expired and was not its last. -/
def Leasable (q : QueueSettings) (now : Timestamp) (t : Task) : Prop :=
  t.status = .pending ∨ q.Expired now t ∧ t.attempts < q.maxAttempts

/-- What a sweep makes of a task. An expired lease waits again, or fails after its last attempt. -/
def sweep (q : QueueSettings) (now : Timestamp) (t : Task) : Task :=
  if q.Expired now t then
    if t.attempts < q.maxAttempts then
      { t with status := .pending, worker := none, updatedAt := now }
    else
      { t with status := .failed, result := some "maximum attempts exceeded", worker := none,
               updatedAt := now }
  else t

lemma isOverdue_iff :
    t.isOverdue (Timestamp.before now q.visibilityTimeout) = true ↔ q.Expired now t := by
  rw [Task.isOverdue, Bool.and_eq_true, decide_eq_true_eq, decide_eq_true_eq, Int64.lt_iff_toInt_lt,
    Timestamp.toInt_before, Expired]

lemma sweep_of_expired (h : q.Expired now t) : q.sweep now t = t.expire q.maxAttempts now := by
  rw [sweep, if_pos h, Task.expire, Task.attemptsExhausted]
  simp only [decide_eq_true_eq, ← UInt32.not_lt, ite_not]
  rfl

lemma sweep_of_not_expired (h : ¬ q.Expired now t) : q.sweep now t = t := if_neg h

@[simp] lemma sweep_id : (q.sweep now t).id = t.id := by
  rw [sweep]
  split_ifs <;> rfl

@[simp] lemma sweep_createdAt : (q.sweep now t).createdAt = t.createdAt := by
  rw [sweep]
  split_ifs <;> rfl

@[simp] lemma sweep_attempts : (q.sweep now t).attempts = t.attempts := by
  rw [sweep]
  split_ifs <;> rfl

/-- The tasks that wait after a sweep are those that may be leased before it. -/
lemma sweep_pending_iff : (q.sweep now t).status = .pending ↔ q.Leasable now t := by
  rw [sweep, Leasable]
  by_cases h : q.Expired now t
  · have hs : t.status = .inProgress := h.1
    by_cases hlt : t.attempts < q.maxAttempts <;> simp [h, hs, hlt]
  · simp [h]

/-- A lease after a sweep shows nothing of the sweep. -/
lemma claim_sweep (h : q.Leasable now t) (worker : String) :
    (q.sweep now t).claim worker now
      = { t with status := .inProgress, worker := some worker, attempts := t.attempts + 1,
                 updatedAt := now } := by
  rw [sweep]
  obtain hs | ⟨hx, hlt⟩ := h
  · have hx : ¬ q.Expired now t := fun hx => by simp [hx.1] at hs
    rw [if_neg hx]
    rfl
  · rw [if_pos hx, if_pos hlt]
    rfl

end QueueSettings

/-! ### Ledgers -/

namespace Ledger

variable {L : Ledger} {now : Timestamp} {q : QueueSettings}

/-- A sweep ends the expired leases and nothing else. -/
theorem get?_recover (L : Ledger) (q : QueueSettings) (now : Timestamp) (id : String) :
    (L.recover now q.visibilityTimeout q.maxAttempts).2.get? id
      = (L.get? id).map (q.sweep now) := by
  have hmem : ∀ u, u ∈ L.overdue (Timestamp.before now q.visibilityTimeout) ↔
      L.get? u.id = some u ∧ q.Expired now u := by
    intro u
    rw [overdue, mem_select, QueueSettings.isOverdue_iff]
  have hid : ((L.overdue (Timestamp.before now q.visibilityTimeout)).map Task.id).Nodup :=
    nodup_select _
  rw [recover, get?_foldl_expireOne hid]
  cases hfind : List.find? (fun u => decide (u.id = id))
      (L.overdue (Timestamp.before now q.visibilityTimeout)) with
  | some u =>
      obtain ⟨hin, rfl⟩ := mem_of_find?_id hfind
      obtain ⟨hu, hx⟩ := (hmem u).mp hin
      rw [hu, Option.map_some, QueueSettings.sweep_of_expired hx]
  | none =>
      cases ht : L.get? id with
      | none => rfl
      | some t =>
          obtain rfl := id_of_get? ht
          have hx : ¬ q.Expired now t := by
            intro hx
            have hne := List.find?_eq_none.mp hfind t ((hmem t).mpr ⟨ht, hx⟩)
            simp at hne
          rw [Option.map_some, QueueSettings.sweep_of_not_expired hx]

/-- A lease takes the first task that waits, if there is one. -/
theorem dequeue_cases (L : Ledger) (now : Timestamp) (worker : String) :
    ((∀ id t, L.get? id = some t → t.status ≠ .pending) ∧ L.dequeue now worker = (none, L)) ∨
      ∃ t, L.get? t.id = some t ∧ t.status = .pending ∧
        (∀ id u, L.get? id = some u → u.status = .pending → Task.le t u = true) ∧
        L.dequeue now worker = (some (t.claim worker now), L.put (t.claim worker now)) := by
  have hmem : ∀ u, u ∈ L.select (fun t => t.status = .pending) ↔
      L.get? u.id = some u ∧ u.status = .pending := by
    intro u
    rw [mem_select, decide_eq_true_eq]
  rw [dequeue]
  cases hsel : L.select fun t => t.status = .pending with
  | nil =>
      refine .inl ⟨fun id t ht hs => ?_, rfl⟩
      obtain rfl := id_of_get? ht
      have hin := (hmem t).mpr ⟨ht, hs⟩
      rw [hsel] at hin
      simp at hin
  | cons t ts =>
      obtain ⟨ht, hs⟩ := (hmem t).mp (hsel ▸ List.mem_cons_self)
      have hpair := pairwise_select (L := L) fun t => t.status = .pending
      rw [hsel, List.pairwise_cons] at hpair
      refine .inr ⟨t, ht, hs, fun id u hu hus => ?_, rfl⟩
      obtain rfl := id_of_get? hu
      have hin := (hmem u).mpr ⟨hu, hus⟩
      rw [hsel, List.mem_cons] at hin
      obtain rfl | hin := hin
      · exact (Task.le_total u u).elim id id
      · exact hpair.1 u hin

/-- A transition fails for a task that is not stored or refuses, and replaces the task otherwise. -/
theorem update_cases (L : Ledger) (id : String) (transition : Task → Except TaskError Task) :
    (L.get? id = none ∧ L.update id transition = (.error (.notFound id), L)) ∨
      ∃ t, L.get? id = some t ∧
        ((∃ e, transition t = .error e ∧ L.update id transition = (.error (.task e), L)) ∨
          ∃ t', transition t = .ok t' ∧ L.update id transition = (.ok t', L.put t')) := by
  rw [update]
  cases ht : L.get? id with
  | none => exact .inl ⟨rfl, rfl⟩
  | some t =>
      refine .inr ⟨t, rfl, ?_⟩
      cases htr : transition t with
      | error e => exact .inl ⟨e, rfl, by simp only [htr]⟩
      | ok t' => exact .inr ⟨t', rfl, by simp only [htr]⟩

/-- A transition of one task leaves the others alone. -/
lemma get?_update_of_ne {id taskId : String} {transition : Task → Except TaskError Task}
    (hid : ∀ t t', transition t = .ok t' → t'.id = t.id) (hne : id ≠ taskId) :
    (L.update taskId transition).2.get? id = L.get? id := by
  obtain ⟨-, hupdate⟩ | ⟨t, ht, ⟨e, -, hupdate⟩ | ⟨t', htr, hupdate⟩⟩ :=
    L.update_cases taskId transition
  all_goals rw [hupdate]
  rw [get?_put, if_neg]
  rwa [hid t t' htr, id_of_get? ht]

end Ledger

/-! ### Services on a ledger -/

namespace Service

variable (m : Service Ledger)

/-- An enqueue stores the new task, unless it is refused. -/
lemma enqueue_ledger (id : String) (now : Timestamp) (type payload : String)
    (metadata : Metadata) :
    (m.enqueue id now type payload metadata).1 = Task.new id now type payload metadata ∧
      Alike { m with store := (Storage.enqueue m.store id now type payload metadata).2 }
        (m.enqueue id now type payload metadata).2 := by
  obtain ⟨hanswer, hstore⟩ := whenOk_eq
    (m.lift (Storage.enqueue m.store id now type payload metadata))
    (f := fun t m => (m.count .enqueued 1).note now .enqueued queueSubject [idDetail t])
    fun _ _ => ⟨rfl, rfl⟩
  refine ⟨hanswer.trans ?_, hstore⟩
  simp only [lift, Storage.enqueue]
  cases Task.new id now type payload metadata <;> rfl

lemma ack_ledger (now : Timestamp) (id : String) (success : Bool) (result : Option String) :
    (m.ack now id success result).1
        = (m.store.update id fun t => t.finish success result now).1.mapError
            StoreError.toTaskError ∧
      Alike { m with store := (m.store.update id fun t => t.finish success result now).2 }
        (m.ack now id success result).2 :=
  whenOk_eq _ fun _ _ => ⟨rfl, rfl⟩

lemma heartbeat_ledger (now : Timestamp) (id : String) :
    (m.heartbeat now id).1
        = (m.store.update id fun t => .ok (t.touch now)).1.mapError StoreError.toTaskError ∧
      Alike { m with store := (m.store.update id fun t => .ok (t.touch now)).2 }
        (m.heartbeat now id).2 :=
  whenOk_eq _ fun _ _ => ⟨rfl, rfl⟩

lemma recover_ledger (now : Timestamp) :
    (m.recover now).1 = .ok (m.store.recover now m.settings.visibilityTimeout
        m.settings.maxAttempts).1 ∧
      Alike { m with store := (m.store.recover now m.settings.visibilityTimeout
        m.settings.maxAttempts).2 } (m.recover now).2 :=
  whenOk_eq _ fun r m => alike_note m now r

lemma claim_ledger (now : Timestamp) (worker : String) :
    (m.claim now worker).1 = .ok (m.store.dequeue now worker).1 ∧
      Alike { m with store := (m.store.dequeue now worker).2 } (m.claim now worker).2 := by
  refine whenOk_eq _ ?_
  rintro (_ | t) m <;> exact ⟨rfl, rfl⟩

/-- Listing leaves the service as it is. -/
lemma list_ledger (status : String) : (m.list status).2 = m := by
  simp only [list]
  split_ifs
  · rfl
  · cases Status.parse status <;> rfl

/-- Looking a task up leaves the service as it is. -/
lemma get_ledger (id : String) : (m.get id).2 = m := by
  simp only [get, lift, Storage.get]
  cases m.store.get? id <;> rfl

/-- The sweep of a dequeue never fails, so the lease follows. -/
lemma serve_dequeue_eq_claim (id : String) (swept now : Timestamp) {worker : String}
    (hworker : Text.isBlank worker = false) :
    m.serve ⟨id, swept, now, .dequeue worker⟩
      = mapResult .found ((m.recover swept).2.claim now worker) := by
  have hanswer := (m.recover_ledger swept).1
  simp only [serve, hworker, Bool.false_eq_true, if_false]
  rcases hrecover : m.recover swept with ⟨answer, m'⟩
  rw [hrecover] at hanswer
  subst hanswer
  rfl

/-- A dequeue of a run leases from what its sweep leaves. -/
lemma serve_dequeue_ledger {e : TimedServiceCall} {worker : String}
    (hcall : e.call = .dequeue worker) (hworker : Text.isBlank worker = false) :
    (m.serve e).1 = .ok (.found ((m.recover e.swept).2.store.dequeue e.now worker).1) ∧
      Alike { m with store := ((m.recover e.swept).2.store.dequeue e.now worker).2 }
        (m.serve e).2 := by
  obtain ⟨-, -, hsettings⟩ := m.recover_ledger e.swept
  obtain ⟨hleased, hstore, hsettings'⟩ := (m.recover e.swept).2.claim_ledger e.now worker
  obtain ⟨id, swept, now, call⟩ := e
  obtain rfl : call = .dequeue worker := hcall
  rw [m.serve_dequeue_eq_claim id swept now hworker]
  exact ⟨congrArg (Except.map Outcome.found) hleased, hstore, hsettings'.trans hsettings⟩

/-- A dequeue leases from what its sweep leaves. -/
lemma dequeue_ledger (now : Timestamp) {worker : String} (hworker : Text.isBlank worker = false) :
    (m.dequeue now worker).1 = .ok ((m.recover now).2.store.dequeue now worker).1 ∧
      Alike { m with store := ((m.recover now).2.store.dequeue now worker).2 }
        (m.dequeue now worker).2 := by
  obtain ⟨hanswer, halike⟩ :=
    m.serve_dequeue_ledger (e := ⟨"", now, now, .dequeue worker⟩) rfl hworker
  rw [serve_eq_perform m rfl] at hanswer halike
  exact ⟨map_injective found_injective hanswer, halike⟩

end Service

end LeaseQueue
