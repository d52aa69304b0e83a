/-
The table keeps the ledger.

* `Table.Holds`: the rows are those of the tasks of a ledger, one for each;
* `Holds.select`, `Holds.fetch`: reading rows reads the ledger;
* `Holds.add`, `Holds.save`: a row added for a new id or written over writes the ledger;
* `Holds.perform`: every call on the table returns what it returns on the ledger, and leaves the
  table holding what it leaves of the ledger.
-/
import LeaseQueue.Proofs.Ledger.Basic
import LeaseQueue.Proofs.Record.Row

namespace LeaseQueue

namespace Table

/-- The rows of a table are those of the tasks of a ledger, one for each. -/
def Holds (tb : Table) (L : Ledger) : Prop :=
  ∃ ts : List Task, tb.rows = ts.map Row.ofTask ∧ (ts.map Task.id).Nodup ∧
    ∀ t, t ∈ ts ↔ L.get? t.id = some t

lemma holds_empty : empty.Holds .empty := ⟨[], rfl, List.nodup_nil, fun t => by simp⟩

/-! ### Rows of tasks -/

lemma ofTask_id_beq (t : Task) (id : String) :
    ((Row.ofTask t).id == Cell.text id) = decide (t.id = id) := by
  rw [Bool.eq_iff_iff, beq_iff_eq, decide_eq_true_eq]
  exact Cell.text.injEq t.id id ▸ Iff.rfl

lemma hasStatus_ofTask (s : Status) (t : Task) :
    hasStatus s (Row.ofTask t) = decide (t.status = s) := by
  rw [Bool.eq_iff_iff, hasStatus, beq_iff_eq, decide_eq_true_eq, ← Status.name_injective]
  exact Cell.text.injEq t.status.name s.name ▸ Iff.rfl

lemma firstDecodable_map_ofTask (ts : List Task) :
    firstDecodable (ts.map Row.ofTask) = .ok ts.head? := by
  cases ts with
  | nil => rfl
  | cons t ts =>
      simp only [List.map_cons, firstDecodable, Row.read_ofTask, StoredTask.decode_ofTask,
        List.head?_cons]

lemma mapM_read_map_ofTask (ts : List Task) :
    (ts.map Row.ofTask).mapM Row.read = .ok (ts.map StoredTask.ofTask) := by
  induction ts with
  | nil => rfl
  | cons t ts ih =>
      rw [List.map_cons, List.mapM_cons, Row.read_ofTask, ih]
      rfl

lemma mapM_decode_map_ofTask (ts : List Task) :
    (ts.map StoredTask.ofTask).mapM StoredTask.decode = .ok ts := by
  induction ts with
  | nil => rfl
  | cons t ts ih =>
      rw [List.map_cons, List.mapM_cons, StoredTask.decode_ofTask, ih]
      rfl

lemma decodeAll_map_ofTask (ts : List Task) : decodeAll (ts.map Row.ofTask) = .ok ts := by
  rw [decodeAll, mapM_read_map_ofTask]
  exact mapM_decode_map_ofTask ts

namespace Holds

variable {tb : Table} {L : Ledger}

/-! ### Reading -/

/-- The rows with a property are those of the tasks with it, in queue order. -/
lemma select (h : tb.Holds L) {p : Row → Bool} {q : Task → Bool}
    (hpq : ∀ t, p (Row.ofTask t) = q t) : tb.select p = (L.select q).map Row.ofTask := by
  obtain ⟨ts, hrows, hid, hmem⟩ := h
  have hfilter : tb.rows.filter p = (ts.filter q).map Row.ofTask := by
    rw [hrows, List.filter_map]
    congr 2
    exact funext hpq
  have hsort : Task.sort (ts.filter q) = L.select q := by
    refine Ledger.sort_eq_select (hid.sublist (List.filter_sublist.map Task.id)) fun t => ?_
    rw [List.mem_filter, hmem]
  rw [Table.select, hfilter, ← hsort, Task.sort]
  exact (List.map_mergeSort fun a _ b _ => (rowLe_ofTask a b).symm).symm

/-- The row with an id is that of the task with it. -/
lemma rowOf? (h : tb.Holds L) (id : String) : tb.rowOf? id = (L.get? id).map Row.ofTask := by
  obtain ⟨ts, hrows, -, hmem⟩ := h
  have hfind : tb.rowOf? id = (ts.find? fun t => t.id = id).map Row.ofTask := by
    rw [Table.rowOf?, hrows, List.find?_map]
    congr 2
    exact funext fun t => ofTask_id_beq t id
  rw [hfind]
  cases hts : ts.find? fun t => t.id = id with
  | none =>
      rw [List.find?_eq_none] at hts
      have hnone : L.get? id = none := by
        rw [Option.eq_none_iff_forall_ne_some]
        intro t ht
        have hid := Ledger.id_of_get? ht
        exact hts t ((hmem t).mpr (hid.symm ▸ ht)) (by simpa using hid)
      rw [hnone]
  | some t =>
      obtain ⟨hin, hid⟩ := Ledger.mem_of_find?_id hts
      have ht : L.get? id = some t := hid ▸ (hmem t).mp hin
      rw [ht]

/-- Reading by id reads the ledger. -/
lemma fetch (h : tb.Holds L) (id : String) : tb.fetch id = .ok (L.get? id) := by
  rw [Table.fetch, h.rowOf?]
  cases ht : L.get? id with
  | none => rfl
  | some t =>
      change (Row.ofTask t).decode.map some = _
      rw [Row.decode_ofTask]
      rfl

lemma fetchExisting (h : tb.Holds L) (id : String) :
    tb.fetchExisting id = match L.get? id with
      | some t => .ok t
      | none => .error (.notFound id) := by
  rw [Table.fetchExisting, h.fetch]
  cases L.get? id <;> rfl

/-! ### Writing -/

/-- Adding a task whose id is new puts the task into the ledger. -/
lemma add (h : tb.Holds L) {t : Task} (ht : L.get? t.id = none) :
    (tb.add t).1 = .ok t ∧ (tb.add t).2.Holds (L.put t) := by
  have hadd : tb.add t = (.ok t, ⟨tb.rows ++ [Row.ofTask t]⟩) := by
    rw [Table.add, h.rowOf?, ht]
    rfl
  obtain ⟨ts, hrows, hid, hmem⟩ := h
  have hnot : ∀ t' ∈ ts, t'.id ≠ t.id := by
    intro t' ht' heq
    have hget := (hmem t').mp ht'
    rw [heq, ht] at hget
    simp at hget
  rw [hadd]
  refine ⟨rfl, ts ++ [t], ?_, ?_, fun t' => ?_⟩
  · rw [hrows, List.map_append, List.map_singleton]
  · rw [List.map_append, List.map_singleton, List.nodup_append]
    refine ⟨hid, List.nodup_singleton _, fun a ha b hb => ?_⟩
    obtain ⟨t', ht', rfl⟩ := List.mem_map.mp ha
    rw [List.mem_singleton.mp hb]
    exact hnot t' ht'
  · rw [List.mem_append, List.mem_singleton, Ledger.get?_put]
    split_ifs with heq
    · rw [Option.some_inj]
      refine ⟨fun h => ?_, fun h => Or.inr h.symm⟩
      rcases h with hts | rfl
      · exact absurd heq (hnot t' hts)
      · rfl
    · rw [hmem]
      refine ⟨fun h => ?_, Or.inl⟩
      rcases h with hget | rfl
      · exact hget
      · exact absurd rfl heq

/-- A row written over puts the changed task into the ledger. -/
lemma save (h : tb.Holds L) {t t' : Task} (ht : L.get? t.id = some t)
    (hsame : Task.SameIdentity t' t) : (tb.save t').Holds (L.put t') := by
  obtain ⟨ts, hrows, hid, hmem⟩ := h
  have hself : ∀ u ∈ ts, u.id = t'.id → u = t := by
    intro u hu heq
    have hget := (hmem u).mp hu
    rw [heq, hsame.1, ht] at hget
    exact (Option.some.inj hget).symm
  have hids : (ts.map fun u => if u.id = t'.id then t' else u).map Task.id = ts.map Task.id := by
    rw [List.map_map]
    refine List.map_congr_left fun u _ => ?_
    by_cases heq : u.id = t'.id <;> simp [heq]
  refine ⟨ts.map fun u => if u.id = t'.id then t' else u, ?_, ?_, fun u => ?_⟩
  · rw [Table.save, hrows, List.map_map, List.map_map]
    refine List.map_congr_left fun u hu => ?_
    simp only [Function.comp_apply, ofTask_id_beq, decide_eq_true_eq]
    split_ifs with heq
    · rw [hself u hu heq]
      exact Row.save_ofTask hsame
    · rfl
  · rw [hids]
    exact hid
  · rw [List.mem_map, Ledger.get?_put]
    constructor
    · rintro ⟨v, hv, rfl⟩
      by_cases heq : v.id = t'.id
      · simp [heq]
      · simp [heq, (hmem v).mp hv]
    · intro hu
      split_ifs at hu with heq
      · have htu : t' = u := Option.some.inj hu
        exact ⟨t, (hmem t).mpr ht, by rw [if_pos hsame.1.symm, htu]⟩
      · exact ⟨u, (hmem u).mpr hu, if_neg heq⟩

/-! ### Calls -/

lemma dequeue (h : tb.Holds L) (now : Timestamp) (worker : String) :
    (tb.dequeue now worker).1 = .ok (L.dequeue now worker).1 ∧
      (tb.dequeue now worker).2.Holds (L.dequeue now worker).2 := by
  have hrows := h.select (hasStatus_ofTask .pending)
  rw [Table.dequeue, hrows, firstDecodable_map_ofTask, Ledger.dequeue]
  cases hsel : L.select fun t => t.status = .pending with
  | nil => exact ⟨rfl, h⟩
  | cons t ts =>
      have ht : L.get? t.id = some t := (Ledger.mem_select.mp (hsel ▸ List.mem_cons_self)).1
      exact ⟨rfl, h.save ht (t.sameIdentity_claim worker now)⟩

lemma update (h : tb.Holds L) (id : String) {transition : Task → Except TaskError Task}
    (hsame : ∀ t t', transition t = .ok t' → Task.SameIdentity t' t) :
    (tb.update id transition).1 = (L.update id transition).1 ∧
      (tb.update id transition).2.Holds (L.update id transition).2 := by
  rw [Table.update, Ledger.update, h.fetchExisting]
  cases ht : L.get? id with
  | none => exact ⟨rfl, h⟩
  | some t =>
      dsimp only
      cases htr : transition t with
      | error e => exact ⟨rfl, h⟩
      | ok t' =>
          rw [← Ledger.id_of_get? ht] at ht
          exact ⟨rfl, h.save ht (hsame t t' htr)⟩

/-- A sweep over rows is the sweep over their tasks. -/
lemma foldl_expireOne {now : Timestamp} {maxAttempts : UInt32} {ts : List Task}
    (hid : (ts.map Task.id).Nodup) (hts : ∀ t ∈ ts, L.get? t.id = some t) (h : tb.Holds L)
    (r : SweepReport) :
    ((ts.map StoredTask.ofTask).foldl (expireOne now maxAttempts) (r, tb)).1
        = (ts.foldl (Ledger.expireOne now maxAttempts) (r, L)).1 ∧
      ((ts.map StoredTask.ofTask).foldl (expireOne now maxAttempts) (r, tb)).2.Holds
        (ts.foldl (Ledger.expireOne now maxAttempts) (r, L)).2 := by
  induction ts generalizing tb L r with
  | nil => exact ⟨rfl, h⟩
  | cons t ts ih =>
      rw [List.map_cons, List.nodup_cons] at hid
      have hone : expireOne now maxAttempts (r, tb) (StoredTask.ofTask t)
          = (r.add (t.expire maxAttempts now) t.worker, tb.save (t.expire maxAttempts now)) := by
        rw [expireOne, StoredTask.decode_ofTask]
      rw [List.map_cons, List.foldl_cons, List.foldl_cons, hone]
      refine ih hid.2 (fun t' ht' => ?_)
        (h.save (hts t List.mem_cons_self) (t.sameIdentity_expire maxAttempts now)) _
      have hne : t'.id ≠ t.id := fun heq => hid.1 (heq ▸ List.mem_map_of_mem ht')
      rw [Ledger.get?_put, Ledger.expire_id, if_neg hne]
      exact hts t' (List.mem_cons_of_mem _ ht')

/-- The overdue rows are those of the overdue tasks. -/
lemma overdue (h : tb.Holds L) (threshold : Timestamp) :
    tb.overdue threshold = (L.overdue threshold).map Row.ofTask := by
  refine h.select fun t => ?_
  rw [hasStatus_ofTask, Task.isOverdue]
  exact congrArg _ (Cell.lt_integer t.updatedAt _)

lemma recover (h : tb.Holds L) (now : Timestamp) (maxAge : Int64) (maxAttempts : UInt32) :
    (tb.recover now maxAge maxAttempts).1 = .ok (L.recover now maxAge maxAttempts).1 ∧
      (tb.recover now maxAge maxAttempts).2.Holds (L.recover now maxAge maxAttempts).2 := by
  have hts : ∀ t ∈ L.overdue (Timestamp.before now maxAge), L.get? t.id = some t :=
    fun t ht => (Ledger.mem_select.mp ht).1
  rw [Table.recover, h.overdue, mapM_read_map_ofTask, Ledger.recover]
  have hfold := @foldl_expireOne tb L now maxAttempts _ (Ledger.nodup_select _) hts h .empty
  exact ⟨congrArg Except.ok hfold.1, hfold.2⟩

/-- Every call on the table does what it does on the ledger, if a new task has a new id. -/
theorem perform (h : tb.Holds L) (id : String) (now : Timestamp) (c : Call)
    (hnew : c.isEnqueue = true → L.get? id = none) :
    (Storage.perform tb id now c).1 = (Storage.perform L id now c).1 ∧
      (Storage.perform tb id now c).2.Holds (Storage.perform L id now c).2 := by
  cases c with
  | enqueue type payload metadata =>
      simp only [Storage.perform, Storage.enqueue]
      cases ht : Task.new id now type payload metadata with
      | error e => exact ⟨rfl, h⟩
      | ok t =>
          have hid : t.id = id := (Task.of_new ht).1
          obtain ⟨hresult, hstore⟩ := h.add (hid ▸ hnew rfl)
          simp only [mapResult, hresult, true_and]
          exact hstore
  | dequeue worker =>
      obtain ⟨hresult, hstore⟩ := h.dequeue now worker
      simp only [Storage.perform, Storage.dequeue, mapResult, hresult, true_and]
      exact hstore
  | ack taskId success result =>
      obtain ⟨hresult, hstore⟩ := h.update taskId
        (fun t t' (ht : t.finish success result now = .ok t') => Task.sameIdentity_finish ht)
      simp only [Storage.perform, Storage.ack, mapResult, hresult, true_and]
      exact hstore
  | list status =>
      have hstatus : ∀ t, (status.all (hasStatus · (Row.ofTask t)))
          = status.all (· = t.status) := by
        intro t
        cases status with
        | none => rfl
        | some s =>
            rw [Option.all_some, Option.all_some, hasStatus_ofTask]
            exact decide_eq_decide.mpr eq_comm
      have hlist : decodeAll (tb.select fun r => status.all (hasStatus · r))
          = .ok (L.select fun t => status.all (· = t.status)) := by
        rw [h.select hstatus, decodeAll_map_ofTask]
      simp only [Storage.perform, Storage.list, mapResult, hlist, true_and]
      exact h
  | get taskId =>
      simp only [Storage.perform, Storage.get, mapResult, h.fetch, true_and]
      exact h
  | heartbeat taskId =>
      obtain ⟨hresult, hstore⟩ := h.update taskId
        (fun t t' (ht : .ok (t.touch now) = Except.ok t') =>
          Except.ok.inj ht ▸ t.sameIdentity_touch now)
      simp only [Storage.perform, Storage.heartbeat, mapResult, hresult, true_and]
      exact hstore
  | recover maxAge maxAttempts =>
      obtain ⟨hresult, hstore⟩ := h.recover now maxAge maxAttempts
      simp only [Storage.perform, Storage.recover, mapResult, hresult, true_and]
      exact hstore

end Holds

end Table

end LeaseQueue
