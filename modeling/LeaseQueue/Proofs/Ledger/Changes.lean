/-
What a call changes of one stored task.

* `Call.leased?`: the task that a call leases;
* `Task.Changes`: how a stored task may change in a call;
* `Ledger.May.changes`: no stored task disappears, and each changes so;
* `Ledger.May.created`: a task that was not stored before is the new one of the call;
* `Ledger.May.failed_swept`: what the failures reported by a sweep were before;
* `nodup_created_append_singleton`: the last call of a history with distinct new ids.
-/
import LeaseQueue.Proofs.Ledger.Faults

namespace LeaseQueue

/-- The task that a call leases. -/
def Call.leased? : Call → Except StoreError Outcome → Option Task
  | .dequeue _, .ok (.found t) => t
  | _, _ => none

@[simp] lemma Call.leased?_error (c : Call) (e : StoreError) : c.leased? (.error e) = none := by
  cases c <;> rfl

/-- How a stored task may change in a call with a result. -/
inductive Task.Changes (now : Timestamp) :
    Call → Except StoreError Outcome → Task → Task → Prop where
  | kept {c : Call} {r : Except StoreError Outcome} {t : Task}
    (h : ∀ u, c.leased? r = some u → u.id ≠ t.id) : Changes now c r t t
  | leased {t : Task} (worker : String) (hs : t.status = .pending) :
    Changes now (.dequeue worker) (.ok (.found (some (t.claim worker now)))) t (t.claim worker now)
  | finished {success : Bool} {result : Option String} {t t' : Task}
    (h : t.finish success result now = .ok t') :
    Changes now (.ack t.id success result) (.ok (.task t')) t t'
  | refreshed (t : Task) : Changes now (.heartbeat t.id) (.ok (.task (t.touch now))) t (t.touch now)
  | expired {maxAge : Int64} (maxAttempts : UInt32) {t : Task} (report : SweepReport)
    (ho : t.isOverdue (Timestamp.before now maxAge) = true) :
    Changes now (.recover maxAge maxAttempts) (.ok (.swept report)) t (t.expire maxAttempts now)

namespace Ledger.May

variable {L L' : Ledger} {id : String} {now : Timestamp} {c : Call}
  {r : Except StoreError Outcome}

/-- Looking a task up leaves all tasks as they are. -/
lemma eq_of_get {taskId : String} (h : L.May id now (.get taskId) r L') : L' = L := by
  cases h <;> rfl

/-- No stored task disappears, and each changes as it may, if a new task has a new id. -/
theorem changes (h : L.May id now c r L') (hnew : c.isEnqueue = true → L.get? id = none)
    {i : String} {t : Task} (ht : L.get? i = some t) :
    ∃ t', L'.get? i = some t' ∧ Task.Changes now c r t t' := by
  obtain rfl : t.id = i := id_of_get? ht
  cases h with
  | failed c e => exact ⟨t, ht, .kept fun u hu => by simp at hu⟩
  | stored hstored =>
      rename_i u
      have hne : t.id ≠ u.id := by
        intro heq
        rw [heq, (Task.of_new hstored).1, hnew rfl] at ht
        simp at ht
      exact ⟨t, by rw [get?_put, if_neg hne, ht], .kept fun u hu => by simp [Call.leased?] at hu⟩
  | unstored => exact ⟨t, ht, .kept fun u hu => by simp [Call.leased?] at hu⟩
  | @leased u worker hu hs =>
      by_cases heq : t.id = u.id
      · rw [heq, hu, Option.some_inj] at ht
        subst ht
        exact ⟨_, by rw [get?_put]; exact if_pos rfl, .leased worker hs⟩
      · refine ⟨t, by rw [get?_put]; exact (if_neg heq).trans ht, .kept fun v hv => ?_⟩
        obtain rfl := Option.some.inj hv
        exact fun hid => heq hid.symm
  | idle worker => exact ⟨t, ht, .kept fun u hu => by simp [Call.leased?] at hu⟩
  | @finished taskId success result u u' hu hfinish =>
      have hid : u'.id = taskId :=
        (Task.sameIdentity_finish hfinish).1.trans (id_of_get? hu)
      by_cases heq : t.id = taskId
      · subst heq
        rw [hu, Option.some_inj] at ht
        subst ht
        exact ⟨u', by rw [get?_put, if_pos hid.symm], .finished hfinish⟩
      · refine ⟨t, by rw [get?_put, hid, if_neg heq, ht], .kept fun v hv => ?_⟩
        simp [Call.leased?] at hv
  | listed => exact ⟨t, ht, .kept fun u hu => by simp [Call.leased?] at hu⟩
  | fetched => exact ⟨t, ht, .kept fun u hu => by simp [Call.leased?] at hu⟩
  | @refreshed taskId u hu =>
      obtain rfl : u.id = taskId := id_of_get? hu
      by_cases heq : t.id = u.id
      · rw [heq, hu, Option.some_inj] at ht
        subst ht
        exact ⟨_, by rw [get?_put]; exact if_pos rfl, .refreshed u⟩
      · refine ⟨t, by rw [get?_put]; exact (if_neg heq).trans ht, .kept fun v hv => ?_⟩
        simp [Call.leased?] at hv
  | @swept maxAge maxAttempts ts hid hts =>
      rw [get?_foldl_expireOne hid]
      cases hfind : ts.find? fun u => u.id = t.id with
      | none => exact ⟨t, ht, .kept fun u hu => by simp [Call.leased?] at hu⟩
      | some u =>
          obtain ⟨hin, heq⟩ := mem_of_find?_id hfind
          obtain ⟨hu, ho⟩ := hts u hin
          rw [heq, ht, Option.some_inj] at hu
          subst hu
          exact ⟨_, rfl, .expired maxAttempts _ ho⟩

/-- A task that was not stored before is the new task of the call. -/
theorem created (h : L.May id now c r L') {i : String} (hi : L.get? i = none) {t : Task}
    (ht : L'.get? i = some t) :
    ∃ type payload metadata, c = .enqueue type payload metadata ∧
      Task.new id now type payload metadata = .ok t := by
  -- a call that writes a stored task creates none
  have hput : ∀ u u' : Task, L.get? u.id = some u → u'.id = u.id → (L.put u').get? i ≠ some t := by
    intro u u' hu hid hput
    rw [get?_put, hid] at hput
    split_ifs at hput with heq
    · rw [heq, hu] at hi
      simp at hi
    · simp [hi] at hput
  cases h with
  | stored hstored =>
      rw [get?_put, hi] at ht
      split_ifs at ht with heq
      obtain rfl := Option.some.inj ht
      exact ⟨_, _, _, rfl, hstored⟩
  | leased worker hu hs => exact absurd ht (hput _ _ hu rfl)
  | finished hu hfinish =>
      obtain rfl := id_of_get? hu
      exact absurd ht (hput _ _ hu (Task.sameIdentity_finish hfinish).1)
  | refreshed hu =>
      obtain rfl := id_of_get? hu
      exact absurd ht (hput _ _ hu rfl)
  | @swept maxAge maxAttempts ts hid hts =>
      rw [get?_foldl_expireOne hid] at ht
      cases hfind : ts.find? fun u => u.id = i with
      | none => simp [hfind, hi] at ht
      | some u =>
          obtain ⟨hin, heq⟩ := mem_of_find?_id hfind
          have hu := (hts u hin).1
          simp [heq, hi] at hu
  | _ => simp [hi] at ht

/-- A task that a sweep reports as failed was leased, overdue and out of attempts. -/
theorem failed_swept {maxAge : Int64} {maxAttempts : UInt32} {report : SweepReport}
    (h : L.May id now (.recover maxAge maxAttempts) (.ok (.swept report)) L') {t' : Task}
    (ht' : t' ∈ report.failed) :
    ∃ t, L.get? t.id = some t ∧ t.isOverdue (Timestamp.before now maxAge) = true ∧
      t.attemptsExhausted maxAttempts = true ∧ t' = t.exhaust now := by
  cases h with
  | swept maxAttempts hid hts =>
      rw [SweepReport.sort, Task.mem_sort, failed_foldl_expireOne] at ht'
      simp only [SweepReport.empty, List.nil_append, List.mem_filter, List.mem_map] at ht'
      obtain ⟨⟨t, ht, rfl⟩, hs⟩ := ht'
      obtain ⟨hget, ho⟩ := hts t ht
      rw [Task.expire] at hs ⊢
      split_ifs at hs ⊢ with hx
      · exact ⟨t, hget, ho, hx, rfl⟩
      · simp [Task.requeue] at hs

end Ledger.May

/-! ### New ids -/

/-- Where the calls that create have distinct ids, the last of them has a new one. -/
lemma nodup_created_append_singleton {α : Type} {creates : α → Bool} {newId : α → String}
    {history : List α} {e : α} (h : (((history ++ [e]).filter creates).map newId).Nodup) :
    ((history.filter creates).map newId).Nodup ∧
      (creates e = true → newId e ∉ (history.filter creates).map newId) := by
  rw [List.filter_append, List.map_append, List.nodup_append] at h
  refine ⟨h.1, fun he hmem => h.2.2 _ hmem (newId e) ?_ rfl⟩
  simp [he]

end LeaseQueue
