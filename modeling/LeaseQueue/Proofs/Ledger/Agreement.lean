/-
Both task stores answer every history alike.

* `TimedCall`, `Storage.replay`: a history of calls and the results it gives on a store;
* `Storage.replay_eq_of_simulates`: a store whose calls do what they do on the ledger gives the
  results of the ledger;
* `Storage.replay_table_eq_replay_keyspace`: a table and a keyspace, both without tasks, give the
  same results to the same history.

The results agree as they are, errors included, and so they do once a service has converted them.
-/
import LeaseQueue.Proofs.Ledger.Keyspace
import LeaseQueue.Proofs.Ledger.Table

namespace LeaseQueue

/-- A call of a history, with its time and the id of a task that it may create. -/
structure TimedCall where
  id : String
  now : Timestamp
  call : Call
deriving DecidableEq, Repr

/-- The ids of the tasks that a history may create. -/
def TimedCall.createdIds (history : List TimedCall) : List String :=
  (history.filter fun e => e.call.isEnqueue).map TimedCall.id

namespace Storage

/-- The results of a history, and the store after it. Each call is made whole, before the next one
begins. -/
def replay {σ : Type} [Storage σ] : σ → List TimedCall → List (Except StoreError Outcome) × σ
  | s, [] => ([], s)
  | s, e :: history =>
    let (r, s) := perform s e.id e.now e.call
    let (rs, s) := replay s history
    (r :: rs, s)

lemma replay_cons {σ : Type} [Storage σ] (s : σ) (e : TimedCall) (history : List TimedCall) :
    replay s (e :: history)
      = ((perform s e.id e.now e.call).1 :: (replay (perform s e.id e.now e.call).2 history).1,
        (replay (perform s e.id e.now e.call).2 history).2) := rfl

/-! ### New ids -/

/-- A ledger gets no task under an id that no call creates. -/
lemma get?_update_eq_none {L : Ledger} {id taskId : String}
    {transition : Task → Except TaskError Task}
    (hsame : ∀ t t', transition t = .ok t' → Task.SameIdentity t' t) (h : L.get? id = none) :
    (L.update taskId transition).2.get? id = none := by
  rw [Ledger.update]
  cases ht : L.get? taskId with
  | none => exact h
  | some t =>
      dsimp only
      cases htr : transition t with
      | error e => exact h
      | ok t' =>
          have hne : id ≠ t'.id := by
            intro heq
            rw [heq, (hsame t t' htr).1, Ledger.id_of_get? ht, ht] at h
            simp at h
          rw [Ledger.get?_put, if_neg hne, h]

/-- A call on the ledger stores a task under a new id only if the id is its own. -/
lemma get?_perform_eq_none {L : Ledger} {id newId : String} {now : Timestamp} {c : Call}
    (h : L.get? id = none) (hne : c.isEnqueue = true → id ≠ newId) :
    (perform L newId now c).2.get? id = none := by
  cases c with
  | enqueue type payload metadata =>
      simp only [perform, enqueue]
      cases ht : Task.new newId now type payload metadata with
      | error e => exact h
      | ok t =>
          have hid : id ≠ t.id := (Task.of_new ht).1.symm ▸ hne rfl
          change (L.put t).get? id = none
          rw [Ledger.get?_put, if_neg hid, h]
  | dequeue worker =>
      change (L.dequeue now worker).2.get? id = none
      rw [Ledger.dequeue]
      cases hsel : L.select fun t => t.status = .pending with
      | nil => exact h
      | cons t ts =>
          have hget := (Ledger.mem_select.mp (hsel ▸ List.mem_cons_self : t ∈ L.select _)).1
          have hid : id ≠ t.id := fun heq => by simp [heq, hget] at h
          exact (L.get?_put (t.claim worker now) id).trans ((if_neg hid).trans h)
  | ack taskId success result =>
      exact get?_update_eq_none (fun t t' ht => Task.sameIdentity_finish ht) h
  | list status => exact h
  | get taskId => exact h
  | heartbeat taskId =>
      exact get?_update_eq_none (fun t t' ht => Except.ok.inj ht ▸ t.sameIdentity_touch now) h
  | recover maxAge maxAttempts =>
      have hget := @Ledger.get?_foldl_expireOne now maxAttempts
        (L.overdue (Timestamp.before now maxAge)) (Ledger.nodup_select _) (.empty, L) id
      change (L.recover now maxAge maxAttempts).2.get? id = none
      rw [Ledger.recover, hget]
      cases hfind : (L.overdue (Timestamp.before now maxAge)).find? fun t => t.id = id with
      | none => exact h
      | some t =>
          obtain ⟨hin, hid⟩ := Ledger.mem_of_find?_id hfind
          have hstored := (Ledger.mem_select.mp hin).1
          rw [hid, h] at hstored
          simp at hstored

/-! ### Histories -/

/-- A store whose calls do what they do on the ledger gives the results of the ledger to every
history that names each new task anew and every owner of a lease. -/
theorem replay_eq_of_simulates {σ : Type} [Storage σ] {H : σ → Ledger → Prop}
    (hperform : ∀ {s L}, H s L → ∀ id now c, (c.isEnqueue = true → L.get? id = none) →
      c ≠ .dequeue "" → (perform s id now c).1 = (perform L id now c).1 ∧
        H (perform s id now c).2 (perform L id now c).2)
    {s : σ} {L : Ledger} (h : H s L) (history : List TimedCall)
    (hids : (TimedCall.createdIds history).Nodup)
    (hnew : ∀ id ∈ TimedCall.createdIds history, L.get? id = none)
    (howner : ∀ e ∈ history, e.call ≠ .dequeue "") :
    (replay s history).1 = (replay L history).1 ∧
      H (replay s history).2 (replay L history).2 := by
  induction history generalizing s L with
  | nil => exact ⟨rfl, h⟩
  | cons e history ih =>
      have hself : e.call.isEnqueue = true → L.get? e.id = none := by
        intro he
        refine hnew e.id ?_
        simp [TimedCall.createdIds, he]
      obtain ⟨hresult, hnext⟩ := hperform h e.id e.now e.call hself (howner e List.mem_cons_self)
      have hsub : ∀ id ∈ TimedCall.createdIds history,
          id ∈ TimedCall.createdIds (e :: history) ∧ (e.call.isEnqueue = true → id ≠ e.id) := by
        intro id hid
        by_cases he : e.call.isEnqueue = true
        · have hsplit : TimedCall.createdIds (e :: history)
              = e.id :: TimedCall.createdIds history := by
            rw [TimedCall.createdIds, List.filter_cons, if_pos he, List.map_cons]
            rfl
          rw [hsplit, List.nodup_cons] at hids
          rw [hsplit]
          exact ⟨List.mem_cons_of_mem _ hid, fun _ heq => hids.1 (heq ▸ hid)⟩
        · have hskip : TimedCall.createdIds (e :: history) = TimedCall.createdIds history := by
            rw [TimedCall.createdIds, List.filter_cons, if_neg he]
            rfl
          rw [hskip]
          exact ⟨hid, fun he' => absurd he' he⟩
      have hids' : (TimedCall.createdIds history).Nodup :=
        hids.sublist (((List.sublist_cons_self e history).filter _).map _)
      obtain ⟨hrest, hend⟩ := ih hnext hids'
        (fun id hid => get?_perform_eq_none (hnew id (hsub id hid).1) (hsub id hid).2)
        fun e' he' => howner e' (List.mem_cons_of_mem _ he')
      rw [replay_cons, replay_cons, hresult, hrest]
      exact ⟨rfl, hend⟩

/-- A table and a keyspace without tasks give the same results to every history that names each new
task anew and every owner of a lease. -/
theorem replay_table_eq_replay_keyspace (name : String) (history : List TimedCall)
    (hids : (TimedCall.createdIds history).Nodup)
    (howner : ∀ e ∈ history, e.call ≠ .dequeue "") :
    (replay Table.empty history).1 = (replay (KeyspaceStore.empty name) history).1 := by
  have htable := replay_eq_of_simulates
    (fun {tb L} (h : Table.Holds tb L) id now c hnew _ => h.perform id now c hnew)
    Table.holds_empty history hids (fun _ _ => rfl) howner
  have hkeyspace := replay_eq_of_simulates
    (fun {s L} (h : KeyspaceStore.Holds s L) id now c hnew howner => h.perform id now c hnew howner)
    (KeyspaceStore.holds_empty name) history hids (fun _ _ => rfl) howner
  rw [htable.1, hkeyspace.1]

/-- A history in which a lease is refreshed at an earlier time and then expires. -/
def expiringHistory : List TimedCall :=
  [⟨"a", 5, .enqueue "mail" "hello" ∅⟩, ⟨"b", 5, .enqueue " " "" ∅⟩, ⟨"", 7, .dequeue "w"⟩,
    ⟨"", 3, .heartbeat "a"⟩, ⟨"", 9, .recover 1 3⟩, ⟨"", 9, .ack "a" true (some "")⟩,
    ⟨"", 9, .list none⟩]

theorem replay_expiringHistory :
    (TimedCall.createdIds expiringHistory).Nodup ∧
      (∀ e ∈ expiringHistory, e.call ≠ .dequeue "") ∧
      (replay Table.empty expiringHistory).1
        = (replay (KeyspaceStore.empty Layout.standardName) expiringHistory).1 := by
  have hids : (TimedCall.createdIds expiringHistory).Nodup := by decide
  have howner : ∀ e ∈ expiringHistory, e.call ≠ .dequeue "" := by decide
  exact ⟨hids, howner,
    replay_table_eq_replay_keyspace Layout.standardName expiringHistory hids howner⟩

end Storage

end LeaseQueue
