/-
Calls over the wire on a service that has been in use.

* `Service.perform_arriving`: an empty result on the wire is none to the service;
* `ClientError.ofTaskError_ne`: errors of the service are no errors of the wire;
* `Remote.perform_after`: after every run, a call over the wire is the call on the service.
-/
import LeaseQueue.Proofs.Client.Exchange
import LeaseQueue.Proofs.Service.Clean

namespace LeaseQueue

/-- A call does the same in the form in which it arrives. -/
lemma Service.perform_arriving (s : Service TaskStore) (id : String) (now : Timestamp)
    (c : ClientCall) :
    s.perform id now c.arriving.toServiceCall = s.perform id now c.toServiceCall := by
  cases c with
  | ack taskId success result =>
      exact congrArg (mapResult Outcome.task) (s.ack_filter now taskId success result)
  | _ => rfl

/-- An error of the service is neither one of the connection nor one of the messages on it. -/
lemma ClientError.ofTaskError_ne (e : TaskError) :
    ofTaskError e ≠ .timeout ∧
      ∀ reason, ofTaskError e ≠ .connection reason ∧ ofTaskError e ≠ .protocol reason := by
  cases e <;> exact ⟨nofun, fun _ => ⟨nofun, nofun⟩⟩

namespace Remote

open TimedServiceCall

variable {s : Service TaskStore} {history : List TimedServiceCall} {id : String}
  {now : Timestamp} {c : ClientCall}

/-- After every run from a store without tasks that names each new task anew, a call over the wire
has the result of the call on the service and leaves the service as that does, if both messages have
frames and the attempts of the tasks fit in 32 bits with sign. The caller sees no error of the
connection and none of the messages on it. -/
theorem perform_after (hempty : s.store.IsEmpty)
    (hids : (createdIds (history ++ [⟨id, now, now, c.toServiceCall⟩])).Nodup)
    (hfits : c.Fits (s.after history) id now)
    (hattempts : AttemptsFit ((s.after history).perform id now c.toServiceCall).1) :
    (Remote.mk (s.after history)).perform id now c
        = (((s.after history).perform id now c.toServiceCall).1.mapError .ofTaskError,
          ⟨((s.after history).perform id now c.toServiceCall).2⟩) ∧
      ∀ e, ((Remote.mk (s.after history)).perform id now c).1 = .error e →
        e ≠ .timeout ∧ ∀ reason, e ≠ .connection reason ∧ e ≠ .protocol reason := by
  have hperform : (Remote.mk (s.after history)).perform id now c
      = (((s.after history).perform id now c.toServiceCall).1.mapError .ofTaskError,
        ⟨((s.after history).perform id now c.toServiceCall).2⟩) := by
    rw [← Service.perform_arriving]
    refine perform_eq hfits fun o ho t ht => ?_
    rw [Service.perform_arriving] at ho
    refine ⟨?_, hattempts o ho t ht⟩
    rw [← Service.serve_eq_perform (e := ⟨id, now, now, c.toServiceCall⟩) _ rfl] at ho
    exact Service.clean_after hempty hids ho t ht
  refine ⟨hperform, fun e he => ?_⟩
  rw [hperform] at he
  cases hanswer : ((s.after history).perform id now c.toServiceCall).1 with
  | ok o =>
      rw [hanswer] at he
      cases he
  | error err =>
      rw [hanswer] at he
      exact Except.error.inj he ▸ ClientError.ofTaskError_ne err

/-- A queue over a keyspace whose second commit, that of a lease, is refused once. -/
def shakyQueue : Service TaskStore :=
  ⟨.keyspace (KeyspaceStore.emptyUnder "queue" ⟨[], [(1, .guarded), (1, .refused)], []⟩), ⟨30, 2⟩,
    .none, .none⟩

/-- One task is leased. -/
def shakyHistory : List TimedServiceCall :=
  [⟨"a", 5, 5, .enqueue "mail" "hello" ∅⟩, ⟨"", 7, 7, .dequeue "v"⟩]

/-- The task is finished over the wire, with an empty result. -/
theorem perform_shakyHistory :
    shakyQueue.store.IsEmpty ∧
      (createdIds (shakyHistory ++ [⟨"", 9, 9, .ack "a" true (some "")⟩])).Nodup ∧
      ((Remote.mk (shakyQueue.after shakyHistory)).perform "" 9 (.ack "a" true (some ""))).1
        = .ok (.task ⟨"a", "mail", "hello", ∅, .completed, 5, 9, none, none, 1⟩) := by
  have hempty : shakyQueue.store.IsEmpty := .keyspace "queue" rfl
  have hids : (createdIds (shakyHistory ++ [⟨"", 9, 9, .ack "a" true (some "")⟩])).Nodup := by
    decide
  have hresult : ((shakyQueue.after shakyHistory).perform "" 9 (.ack "a" true (some ""))).1
      = .ok (.task ⟨"a", "mail", "hello", ∅, .completed, 5, 9, none, none, 1⟩) := by
    decide +kernel
  have hfits : (ClientCall.ack "a" true (some "")).Fits (shakyQueue.after shakyHistory) "" 9 := by
    decide +kernel
  have hattempts : AttemptsFit
      ((shakyQueue.after shakyHistory).perform "" 9 (.ack "a" true (some ""))).1 := by
    rw [hresult]
    decide
  have hperform := (perform_after (c := .ack "a" true (some "")) hempty hids hfits hattempts).1
  refine ⟨hempty, hids, ?_⟩
  rw [hperform]
  exact congrArg (Except.mapError ClientError.ofTaskError) hresult

end Remote

end LeaseQueue
