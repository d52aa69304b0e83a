/-
Tasks that survive the wire.

* `WireEntry.toMetadata_ofMetadata`, `WireTask.toInt_wireAttempts`: tags and attempts both ways;
* `Task.Travels`: a task without empty texts, whose attempts fit in 32 bits with sign;
* `WireTask.toTask_ofTask`: such a task arrives as it was sent;
* `Outcome.members`, `Outcome.Travels`: the tasks of an outcome, and an outcome whose tasks all
  arrive;
* `AttemptsFit`: an answer of which the attempts are small enough.
-/
import LeaseQueue.Proofs.Record.Hash
import LeaseQueue.Store.Storage
import LeaseQueue.Wire.Convert

namespace LeaseQueue

lemma WireEntry.toMetadata_ofMetadata (m : Metadata) : toMetadata (ofMetadata m) = m := by
  have hentries : (ofMetadata m).map (fun e => (e.key, e.value)) = m.entries := by
    rw [ofMetadata, List.map_map]
    exact List.map_id m.entries
  rw [toMetadata, hentries, SortedMap.ofList_entries]

/-- Attempts that fit are sent as they are. -/
lemma WireTask.toInt_wireAttempts {n : UInt32} (h : n.toNat < 2 ^ 31) :
    (wireAttempts n).toInt = n.toNat := by
  have hmax : Int32.maxValue.toInt.toNat = 2 ^ 31 - 1 := by decide
  rw [wireAttempts, if_pos (by omega), Int32.toInt_ofNat_of_lt (by omega)]

/-- A task arrives as it is sent: none of its texts is empty where one may be missing, and its
attempts fit in 32 bits with sign. -/
structure Task.Travels (t : Task) : Prop where
  clean : t.Clean
  attempts_lt : t.attempts.toNat < 2 ^ 31

theorem WireTask.toTask_ofTask {t : Task} (h : t.Travels) : (ofTask t).toTask = .ok t := by
  have hattempts := toInt_wireAttempts h.attempts_lt
  have hback : UInt32.ofNat (wireAttempts t.attempts).toInt.toNat = t.attempts := by
    rw [hattempts, Int.toNat_natCast, UInt32.ofNat_toNat]
  have hsign : ¬ (wireAttempts t.attempts).toInt < 0 := by omega
  simp only [toTask, ofTask, Status.parse, Status.ofName?_name, hsign, hback,
    WireEntry.toMetadata_ofMetadata, Task.filter_ne_empty_eq_self h.clean.result,
    Task.filter_ne_empty_eq_self h.clean.worker]
  rfl

namespace Outcome

/-- The tasks of an outcome. -/
def members : Outcome → List Task
  | task t => [t]
  | found t => t.toList
  | tasks l => l
  | swept _ => []

/-- All tasks of an outcome arrive as they are sent. -/
def Travels (o : Outcome) : Prop := ∀ t ∈ o.members, t.Travels

end Outcome

/-- The attempts of all tasks that a call returns fit in 32 bits with sign. -/
def AttemptsFit (r : Except TaskError Outcome) : Prop :=
  ∀ o, r = .ok o → ∀ t ∈ o.members, t.attempts.toNat < 2 ^ 31

instance : DecidablePred AttemptsFit
  | .error _ => isTrue nofun
  | .ok o => decidable_of_iff (∀ t ∈ o.members, t.attempts.toNat < 2 ^ 31)
      ⟨fun h _ ho => Except.ok.inj ho ▸ h, fun h => h o rfl⟩

end LeaseQueue
