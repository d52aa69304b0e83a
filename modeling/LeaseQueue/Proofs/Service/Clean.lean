/-
No task of a run has an empty text in place of none.

* `Stage.Twin`, `TaskStore.ack_filter`: a store finishes a task with an empty result as it does
  without one;
* `Ledger.May.clean`: whatever a call may do, no stored task and no task that it returns gets an
  empty result or an empty worker;
* `Service.clean_after`: so the next call of a run returns none.
-/
import LeaseQueue.Proofs.Service.Mirror
import LeaseQueue.Proofs.Wire.Convert

namespace LeaseQueue

/-! ### Empty results -/

/-- A task is finished with an empty result as it is without one. -/
lemma Task.finish_filter (t : Task) (success : Bool) (result : Option String) (now : Timestamp) :
    t.finish success (result.filter (· ≠ "")) now = t.finish success result now := by
  rw [finish, finish, filter_ne_empty_eq_self (filter_ne_empty_ne result)]

namespace Stage

/-- Two stages of a call that finishes a task agree, but one has none in place of an empty
result. -/
inductive Twin : Stage → Stage → Prop where
  | acking (id : String) (success : Bool) (result : Option String) (tries : Nat) :
    Twin (.acking id success (result.filter (· ≠ "")) tries) (.acking id success result tries)
  | finishing (id : String) (success : Bool) (result : Option String) (tries : Nat)
      (read done : Task) :
    Twin (.finishing id success (result.filter (· ≠ "")) tries read done)
      (.finishing id success result tries read done)
  | finished (r : Except StoreError Outcome) : Twin (.finished r) (.finished r)

variable {a b : Stage}

lemma Twin.request_eq (h : Twin a b) (l : Layout) : a.request l = b.request l := by cases h <;> rfl

lemma Twin.result_eq (h : Twin a b) : a.result = b.result := by cases h <;> rfl

/-- Twins get twins from one answer. -/
lemma Twin.resume (h : Twin a b) (l : Layout) (now : Timestamp)
    (answer : Except StoreError Reply) :
    Twin (a.resume l now answer) (b.resume l now answer) := by
  cases h with
  | acking id success result tries =>
      simp only [Stage.resume]
      rcases loaded (l.taskKey id) answer with e | _ | t
      · exact .finished _
      · exact .finished _
      · simp only [ackRead, Task.finish_filter]
        cases t.finish success result now with
        | error e => exact .finished _
        | ok done => exact .finishing id success result _ t done
  | finishing id success result tries read done =>
      simp only [Stage.resume]
      split
      · exact .finished _
      · split_ifs
        · exact .finished _
        · exact .acking id success result tries
      · exact .finished _
      · exact .finished _
  | finished r => exact .finished r

lemma Twin.runFor_eq {σ : Type} [Answers σ] (h : Twin a b) (l : Layout) (now : Timestamp)
    (fuel : Nat) (s : σ) : a.runFor l now fuel s = b.runFor l now fuel s := by
  induction fuel generalizing a b s with
  | zero => rw [runFor, runFor, h.result_eq]
  | succ fuel ih =>
      rw [runFor, runFor, h.request_eq l, h.result_eq]
      cases b.request l with
      | none => rfl
      | some q => exact ih (h.resume l now _) _

end Stage

/-- A store finishes a task with an empty result as it does without one. -/
theorem TaskStore.ack_filter (s : TaskStore) (now : Timestamp) (id : String) (success : Bool)
    (result : Option String) :
    Storage.ack s now id success (result.filter (· ≠ ""))
      = Storage.ack s now id success result := by
  cases s with
  | table tb =>
      have htable : Storage.ack tb now id success (result.filter (· ≠ ""))
          = Storage.ack tb now id success result := by
        simp only [Storage.ack, Task.finish_filter]
      simp only [Storage.ack] at htable ⊢
      simp only [TaskStore.via, htable]
  | keyspace s =>
      have hrun := (Stage.Twin.acking id success result Stage.maxTries).runFor_eq s.layout now
        ((2 * Stage.maxTries + 2) * (Answers.extent s.shared + 2)) s.shared
      have hkeyspace : Storage.ack s now id success (result.filter (· ≠ ""))
          = Storage.ack s now id success result := by
        simp only [Storage.ack, CallsOf.call, Stage.start, Stage.run, hrun]
      simp only [Storage.ack] at hkeyspace ⊢
      simp only [TaskStore.via, hkeyspace]

lemma Service.ack_filter (s : Service TaskStore) (now : Timestamp) (id : String) (success : Bool)
    (result : Option String) :
    s.ack now id success (result.filter (· ≠ "")) = s.ack now id success result := by
  rw [Service.ack, Service.ack, TaskStore.ack_filter]

/-! ### Clean tasks -/

namespace Ledger

variable {L L' : Ledger} {id : String} {now : Timestamp} {c : Call}
  {r : Except StoreError Outcome}

/-- Whatever a call may do, stored tasks stay clean, and so are those that it returns. -/
theorem May.clean (hmay : L.May id now c r L') (h : L.AllClean)
    (howner : c = .dequeue "" → ∃ e, r = .error e) :
    L'.AllClean ∧ ∀ o, r = .ok o → ∀ t ∈ o.members, t.Clean := by
  refine ⟨hmay.allClean h howner, ?_⟩
  have hone : ∀ {o t}, t.Clean → o.members = [t] →
      ∀ o', (.ok o : Except StoreError Outcome) = .ok o' → ∀ u ∈ o'.members, u.Clean := by
    rintro o t ht ho _ ⟨⟩ u hu
    rw [ho, List.mem_singleton] at hu
    exact hu ▸ ht
  cases hmay with
  | failed c e => exact nofun
  | stored hnew => exact hone (Task.of_new hnew).2.2 rfl
  | unstored hnew => exact hone (Task.of_new hnew).2.2 rfl
  | leased worker ht hs =>
      have hworker : worker ≠ "" := by
        rintro rfl
        obtain ⟨e, he⟩ := howner rfl
        cases he
      exact hone ((h ht).claim hworker now) rfl
  | finished ht hfinish => exact hone (Task.clean_finish hfinish) rfl
  | listed status =>
      rintro _ ⟨⟩ t ht
      exact h (mem_select.mp ht).1
  | fetched taskId =>
      rintro _ ⟨⟩ t ht
      exact h (Option.mem_toList.mp ht)
  | refreshed ht => exact hone ((h ht).touch now) rfl
  | _ =>
      rintro _ ⟨⟩ t ht
      cases ht

end Ledger

/-! ### Runs -/

namespace Service

open TimedServiceCall

variable {s : Service TaskStore} {history : List TimedServiceCall} {e : TimedServiceCall}
  {limit : UInt32} {L M L' : Ledger} {r r' : Except StoreError Outcome}

/-- A worker without a name is refused. -/
lemma serve_blank (s : Service TaskStore) {worker : String} (hcall : e.call = .dequeue worker)
    (hblank : Text.isBlank worker = true) : ∃ err, (s.serve e).1 = .error err := by
  obtain ⟨id, swept, now, call⟩ := e
  obtain rfl : call = .dequeue worker := hcall
  exact ⟨.invalidArgument "worker_id must not be empty", by simp only [serve, hblank, if_true]⟩

/-- From clean tasks every call of a run leads to clean tasks and returns clean ones. -/
lemma Step.clean (h : s.Step limit history e L M L' r r') (hclean : L.AllClean) :
    L'.AllClean ∧
      ∀ o, ((s.after history).serve e).1 = .ok o → ∀ t ∈ o.members, t.Clean := by
  have hswept := (h.sweep.clean hclean (by simp)).1
  have howner : e.call.toCall s.settings = .dequeue "" → ∃ err, r' = .error err := by
    intro hc
    have hcall : e.call = .dequeue "" := by
      cases hcall : e.call <;> simp_all [ServiceCall.toCall]
    obtain ⟨err, herr⟩ := serve_blank (s.after history) hcall (by decide)
    rw [h.answer] at herr
    cases r' with
    | error err' => exact ⟨err', rfl⟩
    | ok o => cases herr
  obtain ⟨hafter, hreturned⟩ := h.call.clean hswept howner
  refine ⟨hafter, fun o ho => hreturned o ?_⟩
  rw [h.answer] at ho
  cases r' with
  | error err => cases ho
  | ok o' => exact congrArg Except.ok (Except.ok.inj ho)

/-- From a store without tasks, every run that names each new task anew leads to clean tasks. -/
lemma reaches_clean (hempty : s.store.IsEmpty) (hids : (createdIds history).Nodup) :
    ∃ L, s.Reaches 4294967295 history L ∧ L.AllClean := by
  induction history using List.reverseRecOn with
  | nil =>
      refine ⟨.empty, ⟨hempty.holds, rfl, Ledger.regular_empty, fun ht => by simp at ht⟩, ?_⟩
      exact Ledger.allClean_empty
  | append_singleton history e ih =>
      obtain ⟨hbefore, hnew⟩ := nodup_created_append_singleton hids
      obtain ⟨L, h, hclean⟩ := ih hbefore
      obtain ⟨_, L', _, _, hstep⟩ := h.next (by decide) (maxAttempts_le _) hnew
      exact ⟨L', hstep.reaches, (hstep.clean hclean).1⟩

/-- From a store without tasks, no run that names each new task anew returns a task with an empty
text in place of none. -/
theorem clean_after (hempty : s.store.IsEmpty) (hids : (createdIds (history ++ [e])).Nodup)
    {o : Outcome} (ho : ((s.after history).serve e).1 = .ok o) : ∀ t ∈ o.members, t.Clean := by
  obtain ⟨hbefore, hnew⟩ := nodup_created_append_singleton hids
  obtain ⟨L, h, hclean⟩ := reaches_clean hempty hbefore
  obtain ⟨_, _, _, _, hstep⟩ := h.next (by decide) (maxAttempts_le _) hnew
  exact (hstep.clean hclean).2 o ho

end Service

end LeaseQueue
