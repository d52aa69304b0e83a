/-
The room that stored tasks take on the wire, and what calls add to it.

* `Metadata.size`, `size_toMetadata_le`: tags, of which equal keys count once;
* `Task.weight`: the bytes of a task on the wire, with room for a longer status and for the result
  of a failed lease; `weight_claim_le` to `weight_sweep_le`: what a transition adds;
* `Ledger.weight`, `Ledger.weight_put_le`, `Ledger.weight_recover_le`: the same of all tasks;
* `Ledger.sum_weight_le`: stored tasks take no more room than all.
-/
import LeaseQueue.Proofs.Service.OnLedger
import LeaseQueue.Proofs.Wire.Size
import LeaseQueue.Wire.Convert

namespace LeaseQueue

/-! ### Tags -/

/-- The bytes of tags on the wire. -/
def Metadata.size (m : Metadata) : Nat := ((WireEntry.ofMetadata m).map fun e => e.size).sum

lemma Metadata.size_eq (m : Metadata) :
    Metadata.size m = (m.entries.map fun e => 16 + e.1.utf8ByteSize + e.2.utf8ByteSize).sum := by
  rw [size, WireEntry.ofMetadata, List.map_map]
  rfl

lemma sum_place_le (k v : String) (l : List (String × String)) :
    ((SortedMap.place k v l).map fun e => 16 + e.1.utf8ByteSize + e.2.utf8ByteSize).sum
      ≤ (l.map fun e => 16 + e.1.utf8ByteSize + e.2.utf8ByteSize).sum
        + (16 + k.utf8ByteSize + v.utf8ByteSize) := by
  induction l with
  | nil => simp [SortedMap.place]
  | cons e l ih =>
      obtain ⟨k', v'⟩ := e
      rw [SortedMap.place]
      split_ifs <;> simp only [List.map_cons, List.sum_cons] <;> omega

/-- Tags take no more room once they are stored. -/
lemma Metadata.size_toMetadata_le (l : List WireEntry) :
    Metadata.size (WireEntry.toMetadata l) ≤ (l.map fun e => e.size).sum := by
  induction l with
  | nil => exact Nat.le_refl 0
  | cons e l ih =>
      have hstep : WireEntry.toMetadata (e :: l)
          = SortedMap.insertNew (WireEntry.toMetadata l) e.key e.value := rfl
      rw [hstep, SortedMap.insertNew, List.map_cons, List.sum_cons, WireEntry.size]
      split_ifs
      · omega
      · rw [Metadata.size_eq] at ih ⊢
        have hplace := sum_place_le e.key e.value (WireEntry.toMetadata l).entries
        refine Nat.le_trans hplace ?_
        omega

/-! ### Tasks -/

namespace Task

variable {t t' : Task} {now : Timestamp}

/-- The bytes that a task may take on the wire before it gets an owner or a result of its own. -/
def weight (t : Task) : Nat :=
  73 + t.id.utf8ByteSize + t.type.utf8ByteSize + t.payload.utf8ByteSize + Metadata.size t.metadata +
    max 33 (WireTask.optionalSize t.result) + WireTask.optionalSize t.worker

lemma size_ofTask_le (t : Task) : (WireTask.ofTask t).size ≤ t.weight := by
  have hstatus : t.status.name.utf8ByteSize ≤ 11 := by cases t.status <;> decide
  simp only [WireTask.size, WireTask.ofTask, weight, Metadata.size]
  omega

lemma weight_new {id type payload : String} {metadata : Metadata}
    (h : Task.new id now type payload metadata = .ok t) :
    t.weight = 106 + id.utf8ByteSize + type.utf8ByteSize + payload.utf8ByteSize
      + Metadata.size metadata := by
  rw [of_new_eq_ok h]
  simp only [weight, WireTask.optionalSize]
  omega

lemma weight_claim_le (t : Task) (worker : String) (now : Timestamp) :
    (t.claim worker now).weight ≤ t.weight + (8 + worker.utf8ByteSize) := by
  simp only [claim, weight, WireTask.optionalSize]
  omega

lemma weight_finish_le {success : Bool} {result : Option String}
    (h : t.finish success result now = .ok t') :
    t'.weight ≤ t.weight + ((result.getD "").utf8ByteSize) := by
  obtain ⟨-, rfl⟩ := of_finish_eq_ok h
  have hresult : WireTask.optionalSize (result.filter (· ≠ ""))
      ≤ 8 + (result.getD "").utf8ByteSize := by
    cases result with
    | none => exact Nat.zero_le _
    | some r =>
        rw [Option.filter_some]
        split_ifs
        · exact Nat.le_refl _
        · exact Nat.zero_le _
  simp only [weight, WireTask.optionalSize] at hresult ⊢
  omega

lemma weight_touch (t : Task) (now : Timestamp) : (t.touch now).weight = t.weight := rfl

lemma weight_sweep_le (t : Task) (q : QueueSettings) (now : Timestamp) :
    (q.sweep now t).weight ≤ t.weight := by
  have hresult : WireTask.optionalSize (some "maximum attempts exceeded") = 33 := by decide
  rw [QueueSettings.sweep]
  split_ifs
  · simp only [weight, WireTask.optionalSize]
    omega
  · simp only [weight, hresult]
    rw [WireTask.optionalSize]
    omega
  · exact Nat.le_refl _

end Task

/-! ### Ledgers -/

namespace Ledger

variable {L L' : Ledger} {t t' : Task}

/-- The bytes that all tasks may take on the wire. -/
def weight (L : Ledger) : Nat := (L.tasks.values.map Task.weight).sum

@[simp] lemma weight_empty : empty.weight = 0 := rfl

lemma weight_put_le_add (L : Ledger) (t : Task) : (L.put t).weight ≤ L.weight + t.weight := by
  have hle := (List.filter_sublist (p := fun u => decide (u.id ≠ t.id))
    (l := L.tasks.values)).map Task.weight |>.sum_le_sum fun _ _ => Nat.zero_le _
  rw [weight, ((L.values_put t).map Task.weight).sum_eq, List.map_cons, List.sum_cons, weight]
  omega

/-- Replacing a task adds what the new one takes more. -/
lemma weight_put_le (ht : L.get? t.id = some t) (hid : t'.id = t.id) {c : Nat}
    (hc : t'.weight ≤ t.weight + c) : (L.put t').weight ≤ L.weight + c := by
  obtain ⟨rest, hbefore, hafter⟩ := values_put_of_some ht hid
  rw [weight, (hafter.map Task.weight).sum_eq, weight, (hbefore.map Task.weight).sum_eq]
  simp only [List.map_cons, List.sum_cons]
  omega

/-- A sweep takes no room. -/
lemma weight_recover_le (L : Ledger) (q : QueueSettings) (now : Timestamp) :
    (L.recover now q.visibilityTimeout q.maxAttempts).2.weight ≤ L.weight := by
  have hids : ((L.tasks.values.map (q.sweep now)).map Task.id).Nodup := by
    rw [List.map_map]
    exact (List.map_congr_left fun t _ => (QueueSettings.sweep_id).symm) ▸ nodup_values (L := L)
  have hperm : (L.recover now q.visibilityTimeout q.maxAttempts).2.tasks.values.Perm
      (L.tasks.values.map (q.sweep now)) := by
    refine (List.perm_ext_iff_of_nodup (nodup_tasks _) (List.Nodup.of_map _ hids)).mpr fun u => ?_
    rw [mem_values, get?_recover, Option.map_eq_some_iff, List.mem_map]
    constructor
    · rintro ⟨v, hv, rfl⟩
      rw [QueueSettings.sweep_id] at hv
      exact ⟨v, mem_values.mpr hv, rfl⟩
    · rintro ⟨v, hv, rfl⟩
      rw [QueueSettings.sweep_id]
      exact ⟨v, mem_values.mp hv, rfl⟩
  rw [weight, (hperm.map Task.weight).sum_eq, List.map_map, weight]
  exact List.sum_le_sum fun t _ => Task.weight_sweep_le t q now

/-- Stored tasks with different ids take no more room than all. -/
lemma sum_weight_le {ts : List Task} (hids : (ts.map Task.id).Nodup)
    (hts : ∀ t ∈ ts, L.get? t.id = some t) : (ts.map Task.weight).sum ≤ L.weight := by
  have hsub : ts.Subperm L.tasks.values :=
    (List.Nodup.of_map Task.id hids).subperm fun t ht => mem_values.mpr (hts t ht)
  obtain ⟨us, hperm, hsublist⟩ := hsub
  rw [← (hperm.map Task.weight).sum_eq]
  exact (hsublist.map Task.weight).sum_le_sum fun _ _ => Nat.zero_le _

end Ledger

end LeaseQueue
