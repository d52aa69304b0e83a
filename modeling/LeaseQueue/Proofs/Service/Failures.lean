/-
What a call that fails leaves of a store.

* `Table.eq_of_error`: a call on a table that fails leaves the table as it was;
* `KeyspaceStore.kept_replay`: whoever leases, a keyspace keeps the tasks of a ledger after every
  history, as hashes keep them;
* `TaskStore.Spared`: a store is as it was, but for one waiting id that a dequeue took out of the
  queue of a keyspace and could not put back;
* `TaskStore.spared_of_error`: a call that fails after a history leaves a store so.
-/
import LeaseQueue.Proofs.Ledger.Consistency
import LeaseQueue.Proofs.Service.Calls

namespace LeaseQueue

open Storage

/-! ### Tables -/

namespace Table

variable {id : String} {now : Timestamp} {c : Call} {err : StoreError}

lemma add_eq_of_error {tb : Table} {t : Task} (h : (tb.add t).1 = .error err) :
    (tb.add t).2 = tb := by
  rw [add] at h ⊢
  cases hrow : tb.rowOf? t.id with
  | some r => rfl
  | none => simp [hrow] at h

lemma update_eq_of_error {tb : Table} (transition : Task → Except TaskError Task)
    (h : (tb.update id transition).1 = .error err) : (tb.update id transition).2 = tb := by
  rw [update] at h ⊢
  cases hfetch : tb.fetchExisting id with
  | error e => rfl
  | ok t =>
      rw [hfetch] at h
      dsimp only at h ⊢
      cases htr : transition t with
      | error e => rfl
      | ok t' => simp [htr] at h

/-- A call on a table that fails writes nothing. -/
theorem eq_of_error (tb : Table) (h : (perform tb id now c).1 = .error err) :
    (perform tb id now c).2 = tb := by
  cases c with
  | enqueue type payload metadata =>
      simp only [perform, enqueue, mapResult] at h ⊢
      cases ht : Task.new id now type payload metadata with
      | error e => rfl
      | ok t =>
          simp only [ht] at h
          exact add_eq_of_error (Service.map_eq_error.mp h)
  | dequeue worker =>
      simp only [perform, Storage.dequeue, mapResult, Table.dequeue] at h ⊢
      cases hfirst : firstDecodable (tb.select (hasStatus .pending)) with
      | error e => rfl
      | ok found => cases found <;> simp [hfirst, Except.map] at h
  | ack taskId success result => exact update_eq_of_error _ (Service.map_eq_error.mp h)
  | list status => rfl
  | get taskId => rfl
  | heartbeat taskId =>
      exact update_eq_of_error (fun t => .ok (t.touch now)) (Service.map_eq_error.mp h)
  | recover maxAge maxAttempts =>
      simp only [perform, Storage.recover, mapResult, Table.recover] at h ⊢
      cases hread : (tb.overdue (Timestamp.before now maxAge)).mapM Row.read with
      | error e => rfl
      | ok stored => simp [hread, Except.map] at h

end Table

/-! ### Keyspaces -/

namespace KeyspaceStore

/-- After every history a store without foreign batches keeps a ledger, and has a task only under an
id that the history may create. -/
lemma kept_replay {s : KeyspaceStore} (hstart : s.Keeps ∅ .empty) {history : List TimedCall}
    (hids : (TimedCall.createdIds history).Nodup) :
    ∃ lost L, (replay s history).2.Keeps lost L ∧ L.CreatedIn history := by
  induction history using List.reverseRecOn with
  | nil => exact ⟨∅, .empty, hstart, .empty⟩
  | append_singleton history e ih =>
      obtain ⟨hbefore, hfresh⟩ := nodup_created_append_singleton hids
      obtain ⟨lost, L, hkeeps, hcreated⟩ := ih hbefore
      obtain ⟨lost', L', hkeeps', hmay, -⟩ :=
        hkeeps.perform_kept e.id e.now e.call (hcreated.fresh hfresh)
      rw [replay_append_singleton]
      exact ⟨lost', L'.kept, hkeeps', (hcreated.step hmay).kept⟩

end KeyspaceStore

/-! ### Stores of either kind -/

namespace TaskStore

/-- A store is after a call with a result as it was before it, but for one waiting id that a dequeue
popped and could not put back. -/
inductive Spared (e : TimedCall) (r : Except StoreError Outcome) :
    TaskStore → TaskStore → Prop where
  | table (tb : Table) : Spared e r (table tb) (table tb)
  | keyspace {s s' : KeyspaceStore} (hlayout : s'.layout = s.layout)
    (h : s'.shared.keyspace = s.shared.keyspace) : Spared e r (keyspace s) (keyspace s')
  | stranded {s s' : KeyspaceStore} (hlayout : s'.layout = s.layout) {worker id : String}
    (hcall : e.call = .dequeue worker)
    (hstrands : Stage.Strands (s.transcript e.id e.now e.call) r id)
    (h : Keyspace.Unqueues s.layout id s.shared.keyspace s'.shared.keyspace) :
    Spared e r (keyspace s) (keyspace s')

/-- A history on a table is one on the table inside. -/
lemma replay_table (tb : Table) (history : List TimedCall) :
    (replay (table tb) history).2 = table (replay tb history).2 := by
  induction history generalizing tb with
  | nil => rfl
  | cons e history ih => rw [replay_cons, replay_cons, perform_table, ih]

/-- A history on a keyspace is one on the keyspace inside. -/
lemma replay_keyspace (s : KeyspaceStore) (history : List TimedCall) :
    (replay (keyspace s) history).2 = keyspace (replay s history).2 := by
  induction history generalizing s with
  | nil => rfl
  | cons e history ih => rw [replay_cons, replay_cons, perform_keyspace, ih]

variable {s : TaskStore}

/-- After every history, whatever reads and commits fail, a call that fails leaves a store that
started without tasks as it was, but for an id that a dequeue strands.

The history is one of whole calls, one after the other, and so is the call that fails: no other
client makes a request in between. -/
theorem spared_of_error (hempty : s.IsEmpty) (history : List TimedCall) (e : TimedCall)
    (hids : (TimedCall.createdIds (history ++ [e])).Nodup) {err : StoreError}
    (herr : (perform (replay s history).2 e.id e.now e.call).1 = .error err) :
    Spared e (.error err) (replay s history).2
      (perform (replay s history).2 e.id e.now e.call).2 := by
  cases hempty with
  | table =>
      rw [replay_table, perform_table] at herr ⊢
      rw [Table.eq_of_error _ herr]
      exact .table _
  | keyspace name hraces =>
      rw [replay_keyspace, perform_keyspace] at herr ⊢
      obtain ⟨hbefore, hfresh⟩ := nodup_created_append_singleton hids
      obtain ⟨lost, L, hkeeps, hcreated⟩ :=
        KeyspaceStore.kept_replay (KeyspaceStore.keeps_emptyUnder name hraces) hbefore
      rw [← herr]
      obtain ⟨hleaves | ⟨⟨worker, hcall⟩, id, hstrands, hunqueues, -⟩, -⟩ :=
        hkeeps.perform_leaves e.id e.now e.call (hcreated.fresh hfresh)
      · exact .keyspace (KeyspaceStore.layout_perform _ _ _ _) (hleaves.unchanged err herr)
      · exact .stranded (KeyspaceStore.layout_perform _ _ _ _) hcall hstrands hunqueues

/-- One task waits. -/
def waitingHistory : List TimedCall := [⟨"a", 5, .enqueue "mail" "hello" ∅⟩]

/-- The read of the popped task breaks, and so does the commit that is to put it back. -/
theorem spared_waitingHistory :
    Spared ⟨"", 7, .dequeue "w"⟩ (.error MemoryKeyspace.connectionReset)
        (replay (keyspace (.emptyUnder "queue" KeyspaceStore.strandingPlan)) waitingHistory).2
        (perform (replay (keyspace (.emptyUnder "queue" KeyspaceStore.strandingPlan))
          waitingHistory).2 "" 7 (.dequeue "w")).2 ∧
      (perform (replay (KeyspaceStore.emptyUnder "queue" KeyspaceStore.strandingPlan)
          waitingHistory).2 "" 7 (.dequeue "w")).2.shared.keyspace
        ≠ (replay (KeyspaceStore.emptyUnder "queue" KeyspaceStore.strandingPlan)
          waitingHistory).2.shared.keyspace :=
  ⟨spared_of_error (.keyspace "queue" rfl) waitingHistory ⟨"", 7, .dequeue "w"⟩ (by decide)
    (by decide +kernel), by decide +kernel⟩

end TaskStore

end LeaseQueue
