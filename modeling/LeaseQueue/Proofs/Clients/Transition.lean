/-
What the guarded batches of a call mean for a task.

* `Transition`: claim, finish, requeue, exhaust and touch, each applied to the tasks it is for;
* `Transition.acts`: what a transition does, case by case;
* `Status.Next`, `Task.Follows`: how a stored task may change;
* `follows_of_write`: a transition of the task that was read changes the stored task so, also when
  the two are no longer the same.
-/
import LeaseQueue.Proofs.Record.Hash

namespace LeaseQueue

/-! ### Transitions -/

/-- What a guarded batch means for a task. -/
inductive Transition where
  /-- A waiting task is leased. -/
  | claim (worker : String) (now : Timestamp)
  /-- A task is finished. -/
  | finish (success : Bool) (result : Option String) (now : Timestamp)
  /-- An expired lease is ended and the task waits again. -/
  | requeue (now : Timestamp)
  /-- An expired lease is ended and the task has failed. -/
  | exhaust (now : Timestamp)
  /-- A task is refreshed. -/
  | touch (now : Timestamp)
deriving DecidableEq, Repr

namespace Transition

/-- The result of a transition, none for a task that it is not for. -/
def act? : Transition → Task → Option Task
  | claim worker now, t => if t.status = .pending then some (t.claim worker now) else none
  | finish success result now, t => (t.finish success result now).toOption
  | requeue now, t => if t.status = .inProgress then some (t.requeue now) else none
  | exhaust now, t => if t.status = .inProgress then some (t.exhaust now) else none
  | touch now, t => some (t.touch now)

/-- Whether a transition leases its task. -/
def isClaim : Transition → Bool
  | claim _ _ => true
  | _ => false

end Transition

/-- How the status of a task may change. -/
inductive Status.Next : Status → Status → Prop where
  | lease : Next pending inProgress
  | requeue : Next inProgress pending
  | finish {s s' : Status} (hs : s.isTerminal = false) (hs' : s'.isTerminal = true) : Next s s'

/-- Only a leased task is put back into the queue. -/
lemma Status.Next.eq_inProgress {s : Status} (h : Status.Next s .pending) : s = .inProgress := by
  cases h with
  | requeue => rfl
  | finish hs hs' => simp [Status.isTerminal] at hs'

/-- Only a waiting task is leased. -/
lemma Status.Next.eq_pending {s : Status} (h : Status.Next s .inProgress) : s = .pending := by
  cases h with
  | lease => rfl
  | finish hs hs' => simp [Status.isTerminal] at hs'

lemma Status.Next.ne {s s' : Status} (h : Status.Next s s') : s ≠ s' := by
  rintro rfl
  cases h with
  | finish hs hs' => simp [hs] at hs'

/-- How a stored task may change: a finished task keeps its status and its result. -/
structure Task.Follows (t t' : Task) : Prop where
  identity : Task.SameIdentity t' t
  status : t'.status = t.status ∨ Status.Next t.status t'.status
  frozen : t.status.isTerminal = true → t'.status = t.status ∧ t'.result = t.result

lemma Task.Follows.refl (t : Task) : Task.Follows t t :=
  ⟨⟨rfl, rfl, rfl, rfl, rfl⟩, Or.inl rfl, fun _ => ⟨rfl, rfl⟩⟩

/-- What a hash keeps of a changed task follows too. -/
lemma Task.Follows.kept {t t' : Task} (h : Task.Follows t t') (ht : t.Clean) :
    Task.Follows t t'.kept where
  identity := t'.sameIdentity_kept.trans h.identity
  status := h.status
  frozen hs := by
    obtain ⟨hstatus, hresult⟩ := h.frozen hs
    refine ⟨hstatus, ?_⟩
    change t'.result.filter (· ≠ "") = t.result
    rw [hresult, Task.filter_ne_empty_eq_self ht.result]

namespace Transition

variable {tr : Transition} {read written : Task}

/-- Finishing is refused for a finished task and sets a final status. -/
lemma of_finish {t t' : Task} {success : Bool} {result : Option String} {now : Timestamp}
    (h : (t.finish success result now).toOption = some t') :
    t.finish success result now = .ok t' ∧ t.status.isTerminal = false ∧
      t'.status.isTerminal = true := by
  unfold Task.finish at h ⊢
  split at h
  · simp [Except.toOption] at h
  · rename_i hs
    obtain rfl := Option.some.inj h
    rw [if_neg hs]
    refine ⟨rfl, by simpa using hs, ?_⟩
    cases success <;> rfl

/-- What a transition does, with the tasks that it is for. -/
inductive Acts : Transition → Task → Task → Prop where
  | claim {t : Task} (worker : String) (now : Timestamp) (hs : t.status = .pending) :
    Acts (.claim worker now) t (t.claim worker now)
  | finish {t t' : Task} {success : Bool} {result : Option String} {now : Timestamp}
    (h : t.finish success result now = .ok t') (hopen : t.status.isTerminal = false)
    (hterminal : t'.status.isTerminal = true) : Acts (.finish success result now) t t'
  | requeue {t : Task} (now : Timestamp) (hs : t.status = .inProgress) :
    Acts (.requeue now) t (t.requeue now)
  | exhaust {t : Task} (now : Timestamp) (hs : t.status = .inProgress) :
    Acts (.exhaust now) t (t.exhaust now)
  | touch (t : Task) (now : Timestamp) : Acts (.touch now) t (t.touch now)

lemma acts (h : tr.act? read = some written) : tr.Acts read written := by
  cases tr with
  | claim worker now =>
      rw [act?, Option.ite_none_right_eq_some, Option.some_inj] at h
      obtain ⟨hs, rfl⟩ := h
      exact .claim worker now hs
  | finish success result now =>
      obtain ⟨hfinish, hopen, hterminal⟩ := of_finish h
      exact .finish hfinish hopen hterminal
  | requeue now =>
      rw [act?, Option.ite_none_right_eq_some, Option.some_inj] at h
      obtain ⟨hs, rfl⟩ := h
      exact .requeue now hs
  | exhaust now =>
      rw [act?, Option.ite_none_right_eq_some, Option.some_inj] at h
      obtain ⟨hs, rfl⟩ := h
      exact .exhaust now hs
  | touch now =>
      obtain rfl := Option.some.inj h
      exact .touch read now

lemma sameIdentity_act? (h : tr.act? read = some written) :
    Task.SameIdentity written read := by
  cases acts h with
  | claim worker now hs => exact read.sameIdentity_claim worker now
  | finish hfinish hopen hterminal => exact Task.sameIdentity_finish hfinish
  | requeue now hs => exact ⟨rfl, rfl, rfl, rfl, rfl⟩
  | exhaust now hs => exact ⟨rfl, rfl, rfl, rfl, rfl⟩
  | touch t now => exact read.sameIdentity_touch now

/-- A transition changes the status of its task along an edge, and refreshes a finished task at
most. -/
lemma follows_act? (h : tr.act? read = some written) : Task.Follows read written := by
  have hsame := sameIdentity_act? h
  cases acts h with
  | claim worker now hs =>
      refine ⟨hsame, Or.inr ?_, fun hterminal => ?_⟩
      · rw [hs]
        exact .lease
      · simp [hs, Status.isTerminal] at hterminal
  | finish hfinish hopen hterminal =>
      refine ⟨hsame, Or.inr (.finish hopen hterminal), fun hs => ?_⟩
      simp [hopen] at hs
  | requeue now hs =>
      refine ⟨hsame, Or.inr ?_, fun hterminal => ?_⟩
      · rw [hs]
        exact .requeue
      · simp [hs, Status.isTerminal] at hterminal
  | exhaust now hs =>
      refine ⟨hsame, Or.inr ?_, fun hterminal => ?_⟩
      · rw [hs]
        exact .finish rfl rfl
      · simp [hs, Status.isTerminal] at hterminal
  | touch t now => exact ⟨hsame, Or.inl rfl, fun _ => ⟨rfl, rfl⟩⟩

/-- Only a claim leads to a lease that was not there. -/
lemma isClaim_iff (h : tr.act? read = some written) :
    tr.isClaim = true ↔ read.status = .pending ∧ written.status = .inProgress := by
  cases acts h with
  | claim worker now hs => exact ⟨fun _ => ⟨hs, rfl⟩, fun _ => rfl⟩
  | finish hfinish hopen hterminal =>
      refine ⟨fun hc => by simp [isClaim] at hc, fun h => ?_⟩
      simp [h.2, Status.isTerminal] at hterminal
  | requeue now hs => simp [isClaim, hs]
  | exhaust now hs => simp [isClaim, hs]
  | touch t now =>
      refine ⟨fun hc => by simp [isClaim] at hc, fun h => ?_⟩
      obtain ⟨hpending, hleased⟩ := h
      have hstatus : (read.touch now).status = read.status := rfl
      rw [hstatus, hpending] at hleased
      simp at hleased

end Transition

/-- A guarded write changes the stored task as it may change, also when that task is no longer the
one that was read. -/
lemma Task.follows_of_write {tr : Transition} {read written stored : Task}
    (h : tr.act? read = some written) (hid : Task.SameIdentity read stored)
    (hstatus : stored.status = read.status)
    (hfrozen : read.status.isTerminal = true → stored.result = read.result) :
    Task.Follows stored written := by
  have hread := Transition.follows_act? h
  refine ⟨hread.identity.trans hid, ?_, fun hs => ?_⟩
  · rw [hstatus]
    exact hread.status
  · rw [hstatus] at hs ⊢
    rw [hfrozen hs]
    exact hread.frozen hs

end LeaseQueue
