/-
Task stores without layout: the ledger.

* `Ledger`: tasks by id, each under its own;
* `Ledger.select`: the tasks with a property, in queue order;
* `Ledger.dequeue`, `Ledger.update`, `Ledger.recover` and the `Storage` instance: what each call
  does to the tasks, whatever holds them;
* `values_put_of_none`, `values_put_of_some`: all tasks after one of them is written;
* `recover_of_perm`: the order in which a sweep meets the expired leases does not show.

The stores are compared with the ledger one by one, and so with one another.
-/
import LeaseQueue.Store.Storage
import LeaseQueue.Proofs.Record.Hash
import LeaseQueue.Proofs.Task.Order

namespace LeaseQueue

/-- Whether a call stores a new task. -/
def Call.isEnqueue : Call → Bool
  | .enqueue _ _ _ => true
  | _ => false

/-- Tasks by id. -/
structure Ledger where
  tasks : SortedMap Task
  /-- A task stands under its own id. -/
  keyed : ∀ {id t}, tasks.get? id = some t → t.id = id

namespace Ledger

/-- No tasks. -/
def empty : Ledger := ⟨.empty, fun h => by simp at h⟩

/-- The task with an id. -/
def get? (L : Ledger) (id : String) : Option Task := L.tasks.get? id

/-- Put a task under its id. -/
def put (L : Ledger) (t : Task) : Ledger where
  tasks := L.tasks.insert t.id t
  keyed {id t'} h := by
    rw [SortedMap.get?_insert] at h
    split_ifs at h with hid
    · rw [← Option.some.inj h, hid]
    · exact L.keyed h

/-- The tasks with a property, in queue order. -/
def select (L : Ledger) (p : Task → Bool) : List Task := Task.sort (L.tasks.values.filter p)

/-! ### Calls -/

/-- Lease the first waiting task. -/
def dequeue (L : Ledger) (now : Timestamp) (worker : String) : Option Task × Ledger :=
  match L.select fun t => t.status = .pending with
  | [] => (none, L)
  | t :: _ => (some (t.claim worker now), L.put (t.claim worker now))

/-- Replace a task by the result of a transition. -/
def update (L : Ledger) (id : String) (transition : Task → Except TaskError Task) :
    Except StoreError Task × Ledger :=
  match L.get? id with
  | none => (.error (.notFound id), L)
  | some t =>
    match transition t with
    | .error e => (.error (.task e), L)
    | .ok t' => (.ok t', L.put t')

/-- End one expired lease. -/
def expireOne (now : Timestamp) (maxAttempts : UInt32) (acc : SweepReport × Ledger) (t : Task) :
    SweepReport × Ledger :=
  (acc.1.add (t.expire maxAttempts now) t.worker, acc.2.put (t.expire maxAttempts now))

/-- The leases last refreshed before a point in time. -/
def overdue (L : Ledger) (threshold : Timestamp) : List Task :=
  L.select fun t => t.isOverdue threshold

/-- End the leases last refreshed before `now - maxAge`. -/
def recover (L : Ledger) (now : Timestamp) (maxAge : Int64) (maxAttempts : UInt32) :
    SweepReport × Ledger :=
  (L.overdue (Timestamp.before now maxAge)).foldl (expireOne now maxAttempts) (.empty, L)

instance : Storage Ledger where
  backendName _ := "ledger"
  enqueue L id now type payload metadata :=
    match Task.new id now type payload metadata with
    | .error e => (.error (.task e), L)
    | .ok t => (.ok t, L.put t)
  dequeue L now worker := let (t, L) := L.dequeue now worker; (.ok t, L)
  ack L now id success result := L.update id fun t => t.finish success result now
  list L status := (.ok (L.select fun t => status.all (· = t.status)), L)
  get L id := (.ok (L.get? id), L)
  heartbeat L now id := L.update id fun t => .ok (t.touch now)
  recover L now maxAge maxAttempts :=
    let (report, L) := L.recover now maxAge maxAttempts; (.ok report, L)

/-! ### Look-up -/

variable {L L' : Ledger}

lemma ext_get? (h : ∀ id, L.get? id = L'.get? id) : L = L' := by
  obtain ⟨m, hm⟩ := L
  obtain ⟨m', hm'⟩ := L'
  have : m = m' := SortedMap.ext_get? h
  subst this
  rfl

@[simp] lemma get?_empty (id : String) : empty.get? id = none := rfl

lemma get?_put (L : Ledger) (t : Task) (id : String) :
    (L.put t).get? id = if id = t.id then some t else L.get? id :=
  SortedMap.get?_insert L.tasks t.id id t

lemma id_of_get? {id : String} {t : Task} (h : L.get? id = some t) : t.id = id := L.keyed h

lemma put_comm (L : Ledger) {a b : Task} (h : a.id ≠ b.id) :
    (L.put a).put b = (L.put b).put a := by
  refine ext_get? fun id => ?_
  simp only [get?_put]
  split_ifs with hb ha
  · exact absurd (ha.symm.trans hb) h
  all_goals rfl

lemma mem_values {t : Task} : t ∈ L.tasks.values ↔ L.get? t.id = some t := by
  rw [SortedMap.mem_values_iff]
  constructor
  · rintro ⟨k, hk⟩
    rw [L.keyed hk]
    exact hk
  · intro h
    exact ⟨t.id, h⟩

lemma mem_select {p : Task → Bool} {t : Task} :
    t ∈ L.select p ↔ L.get? t.id = some t ∧ p t = true := by
  rw [select, Task.mem_sort, List.mem_filter, mem_values]

lemma nodup_values : (L.tasks.values.map Task.id).Nodup := by
  have hkeys : L.tasks.values.map Task.id = L.tasks.keys := by
    rw [SortedMap.values, SortedMap.keys, List.map_map]
    refine List.map_congr_left fun e he => ?_
    exact L.keyed (SortedMap.mem_entries_iff.mp he)
  rw [hkeys]
  exact L.tasks.nodup_keys

lemma nodup_tasks (L : Ledger) : L.tasks.values.Nodup := List.Nodup.of_map Task.id nodup_values

lemma nodup_filter_values (p : Task → Bool) : ((L.tasks.values.filter p).map Task.id).Nodup :=
  nodup_values.sublist (List.filter_sublist.map Task.id)

lemma nodup_select (p : Task → Bool) : ((L.select p).map Task.id).Nodup :=
  Task.nodup_map_id_sort (nodup_filter_values p)

lemma pairwise_select (p : Task → Bool) :
    (L.select p).Pairwise (fun a b => Task.le a b = true) := Task.pairwise_sort _

/-- A list of the tasks with a property, one for each id, sorts to the selection. -/
lemma sort_eq_select {p : Task → Bool} {ts : List Task} (hid : (ts.map Task.id).Nodup)
    (h : ∀ t, t ∈ ts ↔ L.get? t.id = some t ∧ p t = true) : Task.sort ts = L.select p := by
  refine Task.sort_congr hid (nodup_filter_values p) fun t => ?_
  rw [h, List.mem_filter, mem_values]

/-- The first task of a selection comes before all others in it. -/
lemma select_eq_cons {p : Task → Bool} {t : Task} (ht : t ∈ L.select p)
    (hle : ∀ t' ∈ L.select p, Task.le t t' = true) : ∃ ts, L.select p = t :: ts := by
  cases hsel : L.select p with
  | nil =>
      rw [hsel] at ht
      simp at ht
  | cons a ts =>
      have hpair := pairwise_select (L := L) p
      rw [hsel, List.pairwise_cons] at hpair
      rw [hsel, List.mem_cons] at ht
      rcases ht with rfl | ht
      · exact ⟨ts, rfl⟩
      · have ha : a ∈ L.select p := hsel ▸ List.mem_cons_self
        have hid := (Task.eq_of_le_of_le (hpair.1 t ht) (hle a ha)).2
        have hnodup := nodup_select (L := L) p
        rw [hsel, List.map_cons, List.nodup_cons, hid] at hnodup
        exact absurd (List.mem_map_of_mem ht) hnodup.1

/-! ### All tasks after a write -/

section Values

variable {t t' : Task}

lemma put_of_get? (h : L.get? t.id = some t) : L.put t = L := by
  refine ext_get? fun id => ?_
  rw [get?_put]
  split_ifs with hid
  · rw [hid, h]
  · rfl

/-- A task that is put stands beside those with other ids. -/
lemma values_put (L : Ledger) (t : Task) :
    (L.put t).tasks.values.Perm (t :: L.tasks.values.filter fun u => u.id ≠ t.id) := by
  have hnodup : (t :: L.tasks.values.filter fun u => u.id ≠ t.id).Nodup :=
    List.nodup_cons.mpr ⟨by simp, L.nodup_tasks.filter _⟩
  refine (List.perm_ext_iff_of_nodup (L.put t).nodup_tasks hnodup).mpr fun u => ?_
  rw [mem_values, get?_put, List.mem_cons, List.mem_filter, mem_values]
  by_cases hid : u.id = t.id
  · simp only [hid, if_true, Option.some_inj, ne_eq, not_true_eq_false, decide_false,
      Bool.false_eq_true, and_false, or_false]
    exact eq_comm
  · have hne : u ≠ t := fun heq => hid (heq ▸ rfl)
    simp [hid, hne]

/-- A task put under a new id stands beside all others. -/
lemma values_put_of_none (h : L.get? t.id = none) :
    (L.put t).tasks.values.Perm (t :: L.tasks.values) := by
  refine (L.values_put t).trans (.cons t ?_)
  rw [List.filter_eq_self.mpr]
  intro u hu
  rw [decide_eq_true_eq]
  intro hid
  rw [mem_values, hid, h] at hu
  simp at hu

/-- A task put in the place of another leaves the rest as it is. -/
lemma values_put_of_some (h : L.get? t.id = some t) (hid : t'.id = t.id) :
    ∃ rest, L.tasks.values.Perm (t :: rest) ∧ (L.put t').tasks.values.Perm (t' :: rest) := by
  refine ⟨L.tasks.values.filter fun u => u.id ≠ t.id, ?_, ?_⟩
  · have hput := L.values_put t
    rwa [put_of_get? h] at hput
  · rw [← hid]
    exact L.values_put t'

end Values

/-! ### Sweeps -/

section Sweep

variable {now : Timestamp} {maxAttempts : UInt32}

lemma expire_id (t : Task) : (t.expire maxAttempts now).id = t.id :=
  (Task.sameIdentity_expire t maxAttempts now).1

lemma expire_createdAt (t : Task) : (t.expire maxAttempts now).createdAt = t.createdAt :=
  (Task.sameIdentity_expire t maxAttempts now).2.2.2.2

lemma mem_of_find?_id {ts : List Task} {id : String} {t : Task}
    (h : (ts.find? fun u => u.id = id) = some t) : t ∈ ts ∧ t.id = id :=
  ⟨List.mem_of_find?_eq_some h, by simpa using List.find?_some h⟩

/-- Of tasks with an id each, the one with the id of one of them is this one. -/
lemma find?_id {ts : List Task} (hid : (ts.map Task.id).Nodup) {t : Task} (ht : t ∈ ts) :
    (ts.find? fun u => u.id = t.id) = some t := by
  induction ts with
  | nil => cases ht
  | cons u ts ih =>
      rw [List.map_cons, List.nodup_cons] at hid
      rw [List.find?_cons]
      obtain rfl | ht := List.mem_cons.mp ht
      · rw [decide_eq_true rfl]
      · have hne : u.id ≠ t.id := fun heq => hid.1 (List.mem_map.mpr ⟨t, ht, heq.symm⟩)
        rw [decide_eq_false hne]
        exact ih hid.2 ht

/-- A sweep puts back every lease it ends. -/
lemma foldl_expireOne_snd (ts : List Task) (acc : SweepReport × Ledger) :
    (ts.foldl (expireOne now maxAttempts) acc).2
      = ts.foldl (fun L t => L.put (t.expire maxAttempts now)) acc.2 := by
  induction ts generalizing acc with
  | nil => rfl
  | cons t ts ih => exact ih _

/-- After a sweep exactly the leases it met are ended. -/
lemma get?_foldl_expireOne {ts : List Task} (hid : (ts.map Task.id).Nodup)
    (acc : SweepReport × Ledger) (id : String) :
    (ts.foldl (expireOne now maxAttempts) acc).2.get? id
      = match ts.find? fun t => t.id = id with
        | some t => some (t.expire maxAttempts now)
        | none => acc.2.get? id := by
  induction ts generalizing acc with
  | nil => rfl
  | cons t ts ih =>
      rw [List.map_cons, List.nodup_cons] at hid
      rw [List.foldl_cons, ih hid.2, List.find?_cons]
      by_cases h : t.id = id
      · have hnone : ts.find? (fun t => t.id = id) = none := by
          rw [List.find?_eq_none]
          intro t' ht' heq
          exact hid.1 (List.mem_map.mpr ⟨t', ht', by simpa [h] using heq⟩)
        simp only [hnone, h, decide_true, expireOne, get?_put, expire_id, if_true]
      · have hne : ¬ id = t.id := fun heq => h heq.symm
        simp only [h, decide_false, expireOne, get?_put, expire_id, if_neg hne]

lemma requeued_foldl_expireOne (ts : List Task) (acc : SweepReport × Ledger) :
    (ts.foldl (expireOne now maxAttempts) acc).1.requeued
      = acc.1.requeued ++
        (ts.map fun t => t.expire maxAttempts now).filter fun t => t.status = .pending := by
  induction ts generalizing acc with
  | nil => simp
  | cons t ts ih =>
      rw [List.foldl_cons, ih, List.map_cons, List.filter_cons]
      have hadd : (expireOne now maxAttempts acc t).1.requeued
          = if (t.expire maxAttempts now).status = .pending
            then acc.1.requeued ++ [t.expire maxAttempts now] else acc.1.requeued := by
        unfold expireOne SweepReport.add SweepReport.recordOwner
        cases t.worker <;> dsimp only <;> split_ifs <;> rfl
      rw [hadd]
      split_ifs with h₁ h₂ h₂
      · rw [List.append_assoc, List.singleton_append]
      · simp [h₁] at h₂
      · simp [h₁] at h₂
      · rfl

lemma failed_foldl_expireOne (ts : List Task) (acc : SweepReport × Ledger) :
    (ts.foldl (expireOne now maxAttempts) acc).1.failed
      = acc.1.failed ++
        (ts.map fun t => t.expire maxAttempts now).filter fun t => t.status ≠ .pending := by
  induction ts generalizing acc with
  | nil => simp
  | cons t ts ih =>
      rw [List.foldl_cons, ih, List.map_cons, List.filter_cons]
      have hadd : (expireOne now maxAttempts acc t).1.failed
          = if (t.expire maxAttempts now).status = .pending then acc.1.failed
            else acc.1.failed ++ [t.expire maxAttempts now] := by
        unfold expireOne SweepReport.add SweepReport.recordOwner
        cases t.worker <;> dsimp only <;> split_ifs <;> rfl
      rw [hadd]
      split_ifs with h₁ h₂ h₂
      · simp [h₁] at h₂
      · rfl
      · rw [List.append_assoc, List.singleton_append]
      · simp [h₁] at h₂

/-- The owners that a sweep remembers. -/
lemma previousWorkers_foldl_expireOne (ts : List Task) (acc : SweepReport × Ledger) :
    (ts.foldl (expireOne now maxAttempts) acc).1.previousWorkers
      = ts.foldl (fun m t => match t.worker with
          | some w => m.insert t.id w
          | none => m) acc.1.previousWorkers := by
  induction ts generalizing acc with
  | nil => rfl
  | cons t ts ih =>
      rw [List.foldl_cons, ih, List.foldl_cons]
      congr 1
      unfold expireOne SweepReport.add SweepReport.recordOwner
      rw [expire_id]
      cases t.worker <;> dsimp only <;> split_ifs <;> rfl

/-- A sweep remembers the owners of the leases that it meets. -/
lemma get?_foldl_owner {ts : List Task} (hid : (ts.map Task.id).Nodup) (m : SortedMap String)
    (id : String) :
    (ts.foldl (fun m t => match t.worker with
      | some w => m.insert t.id w
      | none => m) m).get? id
        = ((ts.find? fun t => t.id = id).bind Task.worker).or (m.get? id) := by
  induction ts generalizing m with
  | nil => rfl
  | cons t ts ih =>
      rw [List.map_cons, List.nodup_cons] at hid
      rw [List.foldl_cons, ih hid.2, List.find?_cons]
      by_cases ht : t.id = id
      · have hnone : ts.find? (fun u => u.id = id) = none := by
          rw [List.find?_eq_none]
          intro u hu hid'
          exact hid.1 (List.mem_map.mpr ⟨u, hu, by simpa [ht] using hid'⟩)
        rw [hnone, decide_eq_true ht]
        cases hw : t.worker with
        | none => simp [hw]
        | some w => simp [hw, SortedMap.get?_insert, ht]
      · rw [decide_eq_false ht]
        cases t.worker with
        | none => rfl
        | some w =>
            dsimp only
            rw [SortedMap.get?_insert, if_neg (Ne.symm ht)]

lemma insert_comm (m : SortedMap String) {k k' : String} (h : k ≠ k') (v v' : String) :
    (m.insert k v).insert k' v' = (m.insert k' v').insert k v := by
  refine SortedMap.ext_get? fun q => ?_
  simp only [SortedMap.get?_insert]
  split_ifs with h₁ h₂
  · exact absurd (h₂.symm.trans h₁) h
  all_goals rfl

/-- Ended leases keep their ids. -/
lemma nodup_filter_expire {ts : List Task} (hid : (ts.map Task.id).Nodup) (p : Task → Bool) :
    (((ts.map fun t => t.expire maxAttempts now).filter p).map Task.id).Nodup := by
  refine List.Nodup.sublist (List.filter_sublist.map Task.id) ?_
  rw [List.map_map]
  exact (List.map_congr_left fun t _ => expire_id t) ▸ hid

/-- The order in which a sweep meets the leases does not show once the report is sorted. -/
theorem foldl_expireOne_of_perm {ts ts' : List Task} (hperm : ts.Perm ts')
    (hid : (ts.map Task.id).Nodup) (L : Ledger) :
    (ts.foldl (expireOne now maxAttempts) (.empty, L)).1.sort
        = (ts'.foldl (expireOne now maxAttempts) (.empty, L)).1.sort ∧
      (ts.foldl (expireOne now maxAttempts) (.empty, L)).2
        = (ts'.foldl (expireOne now maxAttempts) (.empty, L)).2 := by
  have hid' : (ts'.map Task.id).Nodup := (hperm.map Task.id).nodup_iff.mp hid
  have hne : ∀ a ∈ ts, ∀ b ∈ ts, a ≠ b → a.id ≠ b.id :=
    fun a ha b hb hab heq => hab (List.inj_on_of_nodup_map hid ha hb heq)
  -- a part of the ended leases sorts alike in any order
  have hsort : ∀ p : Task → Bool,
      Task.sort ((ts.map fun t => t.expire maxAttempts now).filter p)
        = Task.sort ((ts'.map fun t => t.expire maxAttempts now).filter p) := by
    intro p
    refine Task.sort_congr (nodup_filter_expire hid p) (nodup_filter_expire hid' p) fun t => ?_
    exact ((hperm.map _).filter p).mem_iff
  have hworkers : (ts.foldl (expireOne now maxAttempts) (.empty, L)).1.previousWorkers
      = (ts'.foldl (expireOne now maxAttempts) (.empty, L)).1.previousWorkers := by
    rw [previousWorkers_foldl_expireOne, previousWorkers_foldl_expireOne]
    refine hperm.foldl_eq' (fun a ha b hb m => ?_) _
    by_cases hab : a = b
    · rw [hab]
    · cases a.worker <;> cases b.worker <;> dsimp only
      exact insert_comm m (hne a ha b hb hab) _ _
  refine ⟨?_, ?_⟩
  · rw [SweepReport.sort, SweepReport.sort, SweepReport.mk.injEq]
    refine ⟨?_, ?_, hworkers⟩
    · rw [requeued_foldl_expireOne, requeued_foldl_expireOne]
      exact hsort _
    · rw [failed_foldl_expireOne, failed_foldl_expireOne]
      exact hsort _
  · rw [foldl_expireOne_snd, foldl_expireOne_snd]
    refine hperm.foldl_eq' (fun a ha b hb M => ?_) _
    by_cases hab : a = b
    · rw [hab]
    · refine put_comm M ?_
      rw [expire_id, expire_id]
      exact hne a ha b hb hab

/-- A sweep over leases in queue order reports in queue order. -/
lemma sort_foldl_expireOne {ts : List Task} (L : Ledger)
    (hts : ts.Pairwise (fun a b => Task.le a b = true)) :
    (ts.foldl (expireOne now maxAttempts) (.empty, L)).1.sort
      = (ts.foldl (expireOne now maxAttempts) (.empty, L)).1 := by
  have hmap : (ts.map fun t => t.expire maxAttempts now).Pairwise
      (fun a b => Task.le a b = true) := by
    rw [List.pairwise_map]
    refine hts.imp fun {a b} hab => ?_
    rwa [Task.le, expire_id, expire_id, expire_createdAt, expire_createdAt]
  have hpart : ∀ p : Task → Bool,
      Task.sort ((ts.map fun t => t.expire maxAttempts now).filter p)
        = (ts.map fun t => t.expire maxAttempts now).filter p :=
    fun p => Task.sort_eq_self (hmap.sublist List.filter_sublist)
  rw [SweepReport.sort]
  congr 1
  · rw [requeued_foldl_expireOne]
    exact hpart _
  · rw [failed_foldl_expireOne]
    exact hpart _

/-- A sweep in any order over the expired leases does what `recover` does. -/
theorem recover_of_perm {L : Ledger} {maxAge : Int64} {ts : List Task}
    (hid : (ts.map Task.id).Nodup)
    (hmem : ∀ t, t ∈ ts ↔ L.get? t.id = some t ∧
      t.isOverdue (Timestamp.before now maxAge) = true) :
    ((ts.foldl (expireOne now maxAttempts) (.empty, L)).1.sort,
      (ts.foldl (expireOne now maxAttempts) (.empty, L)).2) = L.recover now maxAge maxAttempts := by
  have hsort : Task.sort ts = L.overdue (Timestamp.before now maxAge) := sort_eq_select hid hmem
  have hperm : ts.Perm (L.overdue (Timestamp.before now maxAge)) := by
    rw [← hsort]
    exact (Task.sort_perm ts).symm
  have hpair : (L.overdue (Timestamp.before now maxAge)).Pairwise
      (fun a b => Task.le a b = true) := pairwise_select _
  obtain ⟨hreport, hledger⟩ := @foldl_expireOne_of_perm now maxAttempts _ _ hperm hid L
  rw [hreport, hledger, sort_foldl_expireOne L hpair, recover]

end Sweep

end Ledger

end LeaseQueue
