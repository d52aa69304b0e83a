/-
The indexes of a keyspace agree with its hashes after every history, whatever fails.

* `Keyspace.Stores`: the hash of an id decodes to a task;
* `Keyspace.Consistent`: every index of a layout says what the hashes say, up to a set of stranded
  ids that may wait outside the queue;
* `Ledger.CreatedIn`: every task of a ledger has an id that a history may create;
* `KeyspaceStore.Stranded`: a dequeue of a history popped an id and failed, and the commit that was
  to put the id back failed too;
* `KeyspaceStore.consistent_replay`: a store that starts without tasks is consistent after every
  history up to the ids stranded in it.
-/
import LeaseQueue.Proofs.Ledger.Agreement
import LeaseQueue.Proofs.Ledger.Changes

namespace LeaseQueue

/-! ### Agreement of the indexes -/

namespace Keyspace

variable {l : Layout} {ks : Keyspace}

/-- The hash of an id decodes to a task. -/
def Stores (ks : Keyspace) (l : Layout) (id : String) (t : Task) : Prop :=
  Layout.decode (l.taskKey id) (ks.hash (l.taskKey id)) = .ok t

/-- The indexes of a layout agree with its hashes; only ids in `stranded` may wait outside the
queue. -/
structure Consistent (l : Layout) (stranded : Set String) (ks : Keyspace) : Prop where
  /-- Every hash that is there decodes, to a task under its own id. -/
  decodes : ∀ id, ks.hash (l.taskKey id) ≠ .empty → ∃ t, ks.Stores l id t ∧ t.id = id
  /-- Entries by score and entries by member are the same in every scored set. -/
  inStep : ks.InStep
  all : ∀ id, id ∈ ks.members l.allKey ↔ ∃ t, ks.Stores l id t
  listed : ∀ s id, id ∈ ks.members (l.statusKey s) ↔ ∃ t, ks.Stores l id t ∧ t.status = s
  leased : ∀ id x, (ks.scoredSet l.inProgressKey).score? id = some x ↔
    ∃ t, ks.Stores l id t ∧ t.status = .inProgress ∧ t.updatedAt = x
  queued : ∀ id x, (ks.scoredSet l.pendingKey).score? id = some x →
    ∃ t, ks.Stores l id t ∧ t.status = .pending ∧ t.createdAt = x
  waiting : ∀ id t, ks.Stores l id t → t.status = .pending → id ∉ stranded →
    (ks.scoredSet l.pendingKey).score? id = some t.createdAt

/-- Where every hash is as the layout writes it, the stored tasks are those that decode. -/
lemma Sound.stores_iff (h : Sound l ks) {id : String} {t : Task} :
    ks.Stores l id t ↔ ks.task? l id = some t := by
  rw [Stores]
  cases hu : ks.task? l id with
  | none =>
      rw [h.hash_of_none hu]
      refine ⟨fun hdecode => ?_, fun hnone => by simp at hnone⟩
      cases hdecode
  | some u =>
      rw [h.hash_of_some hu, Layout.decode_record, (h.clean hu).kept_eq, Except.ok.injEq,
        Option.some_inj]

lemma Indexed.consistent {lost : Set String} (h : Indexed l lost ks) : Consistent l lost ks where
  decodes id hid := by
    cases ht : ks.task? l id with
    | none => exact absurd (h.sound.hash_of_none ht) hid
    | some t => exact ⟨t, h.sound.stores_iff.mpr ht, h.sound.id_eq ht⟩
  inStep := h.inStep
  all id := by simp only [h.sound.stores_iff, h.all]
  listed s id := by simp only [h.sound.stores_iff, h.listed]
  leased id x := by
    simp only [h.sound.stores_iff, h.leased, Option.bind_eq_some_iff, Task.leaseScore?,
      Option.ite_none_right_eq_some, Option.some_inj]
  queued id x hx := by
    simp only [h.sound.stores_iff]
    exact h.queued hx
  waiting id t ht hs hid := h.waiting (h.sound.stores_iff.mp ht) hs hid

end Keyspace

/-! ### Histories with faults -/

namespace Storage

lemma replay_append {σ : Type} [Storage σ] (s : σ) (history rest : List TimedCall) :
    replay s (history ++ rest)
      = ((replay s history).1 ++ (replay (replay s history).2 rest).1,
        (replay (replay s history).2 rest).2) := by
  induction history generalizing s with
  | nil => rfl
  | cons e history ih => rw [List.cons_append, replay_cons, replay_cons, ih, List.cons_append]

lemma replay_append_singleton {σ : Type} [Storage σ] (s : σ) (history : List TimedCall)
    (e : TimedCall) :
    (replay s (history ++ [e])).2 = (perform (replay s history).2 e.id e.now e.call).2 := by
  rw [replay_append]
  rfl

end Storage

namespace Ledger

/-- Every task has an id that a history may create. -/
def CreatedIn (L : Ledger) (history : List TimedCall) : Prop :=
  ∀ ⦃id t⦄, L.get? id = some t → id ∈ TimedCall.createdIds history

namespace CreatedIn

variable {L L' : Ledger} {history : List TimedCall} {e : TimedCall}

lemma empty : CreatedIn .empty [] := fun _ _ ht => by simp at ht

lemma kept (h : L.CreatedIn history) : L.kept.CreatedIn history := by
  intro id t ht
  rw [get?_kept, Option.map_eq_some_iff] at ht
  obtain ⟨u, hu, -⟩ := ht
  exact h hu

/-- A call that creates a task under an id of its own finds none there. -/
lemma fresh (h : L.CreatedIn history)
    (hnew : e.call.isEnqueue = true → e.id ∉ TimedCall.createdIds history) :
    e.call.isEnqueue = true → L.get? e.id = none := by
  rw [Option.eq_none_iff_forall_ne_some]
  exact fun he t ht => hnew he (h ht)

lemma step (h : L.CreatedIn history) {r : Except StoreError Outcome}
    (hmay : L.May e.id e.now e.call r L') : L'.CreatedIn (history ++ [e]) := by
  intro id t ht
  rw [TimedCall.createdIds, List.filter_append, List.map_append, List.mem_append]
  cases hid : L.get? id with
  | some u => exact .inl (h hid)
  | none =>
      obtain ⟨type, payload, metadata, hcall, ht'⟩ := hmay.created hid ht
      rw [← id_of_get? ht, (Task.of_new ht').1]
      exact .inr (by simp [hcall, Call.isEnqueue])

end CreatedIn

end Ledger

namespace KeyspaceStore

open Storage

variable {s : KeyspaceStore} {history : List TimedCall} {id : String}

/-- A dequeue of a history popped an id and failed, and the id did not get back into the queue. -/
def Stranded (s : KeyspaceStore) (history : List TimedCall) (id : String) : Prop :=
  ∃ p e q, history = p ++ e :: q ∧ (∃ worker, e.call = .dequeue worker) ∧
    Stage.Strands ((replay s p).2.transcript e.id e.now e.call)
      (perform (replay s p).2 e.id e.now e.call).1 id

lemma Stranded.append (h : Stranded s history id) (e : TimedCall) :
    Stranded s (history ++ [e]) id := by
  obtain ⟨p, e', q, rfl, hstrands⟩ := h
  exact ⟨p, e', q ++ [e], by simp, hstrands⟩

/-- After every history a store without foreign batches keeps a ledger, has lost stranded ids only,
and has a task only under an id that the history may create. -/
lemma keeps_replay (hstart : s.Keeps ∅ .empty) (hids : (TimedCall.createdIds history).Nodup)
    (howner : ∀ e ∈ history, e.call ≠ .dequeue "") :
    ∃ lost L, (replay s history).2.Keeps lost L ∧ (replay s history).2.layout = s.layout ∧
      (∀ id ∈ lost, Stranded s history id) ∧ L.CreatedIn history := by
  induction history using List.reverseRecOn with
  | nil => exact ⟨∅, .empty, hstart, rfl, fun id hid => hid.elim, .empty⟩
  | append_singleton history e ih =>
      obtain ⟨hbefore, hfresh⟩ := nodup_created_append_singleton hids
      obtain ⟨lost, L, hkeeps, hlayout, hlost, hcreated⟩ := ih hbefore fun e' he' =>
        howner e' (List.mem_append_left _ he')
      obtain ⟨lost', L', hkeeps', hmay, hlost'⟩ :=
        hkeeps.perform e.id e.now e.call (hcreated.fresh hfresh) (howner e (by simp))
      rw [replay_append_singleton]
      refine ⟨lost', L', hkeeps', (layout_perform _ _ _ _).trans hlayout, fun id hid => ?_,
        hcreated.step hmay⟩
      rcases hlost' id hid with hid | hstrands
      · exact (hlost id hid).append e
      · exact ⟨history, e, [], rfl, hstrands⟩

/-- Whatever reads and commits fail, the indexes of a store that starts without tasks agree with its
hashes after every history that names each new task anew and every owner of a lease; a waiting task
is missing from the queue only if it was stranded. -/
theorem consistent_replay (name : String) (plan : FaultPlan) (hraces : plan.races = [])
    (history : List TimedCall) (hids : (TimedCall.createdIds history).Nodup)
    (howner : ∀ e ∈ history, e.call ≠ .dequeue "") :
    Keyspace.Consistent ⟨name⟩ {id | Stranded (emptyUnder name plan) history id}
      (replay (emptyUnder name plan) history).2.shared.keyspace := by
  obtain ⟨lost, L, hkeeps, hlayout, hlost, -⟩ :=
    keeps_replay (keeps_emptyUnder name hraces) hids howner
  have hindexed := hkeeps.keyspace.indexed
  rw [hlayout] at hindexed
  exact (hindexed.mono hlost).consistent

/-- The read of a popped task breaks, and so does the commit that is to put it back. -/
def strandingPlan : FaultPlan := ⟨[(1, true)], [(1, .guarded), (1, .broken)], []⟩

/-- One task is stranded, and another one leased after it. -/
def strandingHistory : List TimedCall :=
  [⟨"a", 5, .enqueue "mail" "hello" ∅⟩, ⟨"", 7, .dequeue "w"⟩, ⟨"b", 8, .enqueue "mail" "" ∅⟩,
    ⟨"", 9, .dequeue "w"⟩]

theorem consistent_strandingHistory :
    Keyspace.Consistent ⟨"queue"⟩
        {id | Stranded (emptyUnder "queue" strandingPlan) strandingHistory id}
        (replay (emptyUnder "queue" strandingPlan) strandingHistory).2.shared.keyspace ∧
      Stranded (emptyUnder "queue" strandingPlan) strandingHistory "a" := by
  have hconsistent := consistent_replay "queue" strandingPlan rfl strandingHistory (by decide)
    (by decide)
  refine ⟨hconsistent, ?_⟩
  by_contra hstranded
  -- the task waits, and the queue has no entry for it
  have hstored :
      (replay (emptyUnder "queue" strandingPlan) strandingHistory).2.shared.keyspace.Stores
        ⟨"queue"⟩ "a" ⟨"a", "mail", "hello", ∅, .pending, 5, 5, none, none, 0⟩ := by
    unfold Keyspace.Stores
    decide +kernel
  have hqueued := hconsistent.waiting "a" _ hstored rfl hstranded
  revert hqueued
  decide +kernel

end KeyspaceStore

end LeaseQueue
