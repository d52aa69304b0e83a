/-
What a call may do to a ledger.

* `Ledger.May`: what a call may return, and leave of the tasks, when reads and commits fail: what it
  does without faults, a part of it, or nothing;
* `Ledger.AllClean`: no stored task has an empty text in place of none; whatever a call may do, that
  stays, unless it leases to a worker without a name (`May.allClean`);
* `Ledger.kept`: the tasks as hashes keep them, which are the tasks themselves where all are clean.
-/
import LeaseQueue.Proofs.Ledger.Basic

namespace LeaseQueue

/-! ### Calls with faults -/

namespace Ledger

/-- What a call may return, and leave of the tasks, when reads and commits fail. A new task whose
insertion is refused is returned but not stored, and a sweep may leave overdue leases alone. -/
inductive May (L : Ledger) (id : String) (now : Timestamp) :
    Call → Except StoreError Outcome → Ledger → Prop where
  | failed (c : Call) (e : StoreError) : May L id now c (.error e) L
  | stored {type payload : String} {metadata : Metadata} {t : Task}
    (h : Task.new id now type payload metadata = .ok t) :
    May L id now (.enqueue type payload metadata) (.ok (.task t)) (L.put t)
  | unstored {type payload : String} {metadata : Metadata} {t : Task}
    (h : Task.new id now type payload metadata = .ok t) :
    May L id now (.enqueue type payload metadata) (.ok (.task t)) L
  | leased {t : Task} (worker : String) (ht : L.get? t.id = some t) (hs : t.status = .pending) :
    May L id now (.dequeue worker) (.ok (.found (some (t.claim worker now))))
      (L.put (t.claim worker now))
  | idle (worker : String) : May L id now (.dequeue worker) (.ok (.found none)) L
  | finished {taskId : String} {success : Bool} {result : Option String} {t t' : Task}
    (ht : L.get? taskId = some t) (h : t.finish success result now = .ok t') :
    May L id now (.ack taskId success result) (.ok (.task t')) (L.put t')
  | listed (status : Option Status) :
    May L id now (.list status) (.ok (.tasks (L.select fun t => status.all (· = t.status)))) L
  | fetched (taskId : String) : May L id now (.get taskId) (.ok (.found (L.get? taskId))) L
  | refreshed {taskId : String} {t : Task} (ht : L.get? taskId = some t) :
    May L id now (.heartbeat taskId) (.ok (.task (t.touch now))) (L.put (t.touch now))
  | swept {maxAge : Int64} (maxAttempts : UInt32) {ts : List Task} (hid : (ts.map Task.id).Nodup)
    (hts : ∀ t ∈ ts, L.get? t.id = some t ∧
      t.isOverdue (Timestamp.before now maxAge) = true) :
    May L id now (.recover maxAge maxAttempts)
      (.ok (.swept (ts.foldl (expireOne now maxAttempts) (.empty, L)).1.sort))
      (ts.foldl (expireOne now maxAttempts) (.empty, L)).2

variable {L : Ledger} {id : String} {now : Timestamp}

lemma may_update (taskId : String) (transition : Task → Except TaskError Task) {c : Call}
    (h : ∀ t t', L.get? taskId = some t → transition t = .ok t' →
      L.May id now c (.ok (.task t')) (L.put t')) :
    L.May id now c ((L.update taskId transition).1.map .task) (L.update taskId transition).2 := by
  rw [update]
  cases ht : L.get? taskId with
  | none => exact .failed c _
  | some t =>
      dsimp only
      cases htr : transition t with
      | error e => exact .failed c _
      | ok t' => exact h t t' ht htr

/-- What a call does without faults is among what it may do. -/
lemma may_perform (L : Ledger) (id : String) (now : Timestamp) (c : Call) :
    L.May id now c (Storage.perform L id now c).1 (Storage.perform L id now c).2 := by
  cases c with
  | enqueue type payload metadata =>
      simp only [Storage.perform, Storage.enqueue]
      cases ht : Task.new id now type payload metadata with
      | error e => exact .failed _ _
      | ok t => exact .stored ht
  | dequeue worker =>
      simp only [Storage.perform, Storage.dequeue, mapResult, dequeue]
      cases hsel : L.select fun t => t.status = .pending with
      | nil => exact .idle worker
      | cons t ts =>
          obtain ⟨ht, hs⟩ := mem_select.mp (hsel ▸ List.mem_cons_self)
          exact .leased worker ht (of_decide_eq_true hs)
  | ack taskId success result => exact may_update taskId _ fun t t' ht htr => .finished ht htr
  | list status => exact .listed status
  | get taskId => exact .fetched taskId
  | heartbeat taskId =>
      refine may_update taskId (fun t => .ok (t.touch now)) fun t t' ht htr => ?_
      obtain rfl := Except.ok.inj htr
      exact .refreshed ht
  | recover maxAge maxAttempts =>
      have hpair : (L.overdue (Timestamp.before now maxAge)).Pairwise
          (fun a b => Task.le a b = true) := pairwise_select _
      have hswept : L.May id now (.recover maxAge maxAttempts) _ _ := .swept maxAttempts
        (nodup_select fun t => t.isOverdue (Timestamp.before now maxAge))
        fun t ht => mem_select.mp ht
      rw [show L.select (fun t => t.isOverdue (Timestamp.before now maxAge))
        = L.overdue (Timestamp.before now maxAge) from rfl, sort_foldl_expireOne L hpair] at hswept
      exact hswept

/-! ### Clean tasks -/

/-- No stored task has an empty text in place of none. -/
def AllClean (L : Ledger) : Prop := ∀ ⦃id t⦄, L.get? id = some t → t.Clean

lemma allClean_empty : AllClean .empty := fun _ _ h => by simp at h

lemma AllClean.put (h : L.AllClean) {t : Task} (ht : t.Clean) : (L.put t).AllClean := by
  intro id u hu
  rw [get?_put] at hu
  split_ifs at hu
  · exact Option.some.inj hu ▸ ht
  · exact h hu

/-- Whatever a call may do, stored tasks stay clean, unless it leases to a worker without a name. -/
theorem May.allClean {L' : Ledger} {c : Call} {r : Except StoreError Outcome}
    (hmay : L.May id now c r L') (h : L.AllClean)
    (howner : c = .dequeue "" → ∃ e, r = .error e) : L'.AllClean := by
  cases hmay with
  | stored hnew => exact h.put (Task.of_new hnew).2.2
  | leased worker ht hs =>
      have hworker : worker ≠ "" := by
        rintro rfl
        obtain ⟨e, he⟩ := howner rfl
        cases he
      exact h.put ((h ht).claim hworker now)
  | finished ht hfinish => exact h.put (Task.clean_finish hfinish)
  | refreshed ht => exact h.put ((h ht).touch now)
  | swept maxAttempts hid hts =>
      intro i t ht
      rw [get?_foldl_expireOne hid] at ht
      split at ht
      · rename_i u hfind
        have hu := (hts u (mem_of_find?_id hfind).1).1
        exact Option.some.inj ht ▸ (h hu).expire maxAttempts now
      · exact h ht
  | _ => exact h

/-! ### Tasks in hashes -/

/-- The tasks as hashes keep them. -/
def kept (L : Ledger) : Ledger where
  tasks := L.tasks.map Task.kept
  keyed {id t} h := by
    rw [SortedMap.get?_map, Option.map_eq_some_iff] at h
    obtain ⟨u, hu, rfl⟩ := h
    rw [Task.kept_id]
    exact L.keyed hu

@[simp] lemma get?_kept (L : Ledger) (id : String) : L.kept.get? id = (L.get? id).map Task.kept :=
  SortedMap.get?_map _ _ _

lemma AllClean.kept_eq (h : L.AllClean) : L.kept = L := by
  refine ext_get? fun id => ?_
  rw [get?_kept]
  cases ht : L.get? id with
  | none => rfl
  | some t => rw [Option.map_some, (h ht).kept_eq]

/-- A task put among clean ones is kept as its hash keeps it. -/
lemma AllClean.kept_put (h : L.AllClean) (t : Task) : (L.put t).kept = L.put t.kept := by
  refine ext_get? fun id => ?_
  rw [get?_kept, get?_put, get?_put, Task.kept_id]
  split_ifs
  · rfl
  · rw [← get?_kept, h.kept_eq]

end Ledger

end LeaseQueue
