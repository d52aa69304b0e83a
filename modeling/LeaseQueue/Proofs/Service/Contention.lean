/-
Refused commits are invisible up to the last try.

* `Call.retries`: the calls that write a task under guards and try again when they are refused;
* `KeyspaceStore.refusing`: a store that refuses the next so many batches with guards, and has no
  other fault; `KeyspaceStore.faultless`: a store without faults;
* `KeyspaceStore.contends`: such a call on a refusing store commits a batch with guards;
* `KeyspaceStore.Weathered`: a call gives what it gives without refusals, or gives up and leaves all
  as it was;
* `KeyspaceStore.weathered_replay`: so it is after every history, whatever failed in it.
-/
import LeaseQueue.Proofs.Ledger.Contention
import LeaseQueue.Proofs.Service.Failures

namespace LeaseQueue

open Storage

/-- The calls that write a task under guards, and try again when they are refused. -/
def Call.retries : Call → Bool
  | .dequeue _ | .ack _ _ _ | .heartbeat _ => true
  | _ => false

lemma Keyspace.Holds.weathers {l : Layout} {lost : Set String} {ks : Keyspace} {L : Ledger}
    (h : Holds l lost ks L) (id : String) (now : Timestamp) {c : Call} (hc : c.retries = true) :
    Weathers l (c.clock now) c (Stage.start id now c) ks := by
  cases c with
  | dequeue worker => exact h.weathers_popping worker
  | ack taskId success result => exact h.weathers_acking taskId success result
  | heartbeat taskId => exact h.weathers_beating taskId
  | _ => simp [Call.retries] at hc

namespace KeyspaceStore

variable {s : KeyspaceStore} {id : String} {now : Timestamp} {c : Call} {r : Nat}

/-- The store, if its next `r` batches with guards are refused and nothing else fails. -/
def refusing (s : KeyspaceStore) (r : Nat) : CallsOf Refusing :=
  ⟨s.layout, ⟨s.shared.keyspace, r⟩⟩

/-- The store, if nothing fails any more. -/
def faultless (s : KeyspaceStore) : KeyspaceStore :=
  { s with shared := { s.shared with plan := .none } }

/-- A call commits a batch with guards, if the first `r` of them are refused. -/
def contends (s : KeyspaceStore) (id : String) (now : Timestamp) (c : Call) (r : Nat) : Bool :=
  Stage.contends s.layout
    (Stage.trace s.layout (c.clock now) (Stage.start id now c) (s.refusing r).shared)

/-- A call whose first `r` batches with guards are refused, against the same call without faults: up
to 15 refusals, or without such a batch, it gives the same and leaves the same; otherwise it gives
up on the task that the other call hands out, and leaves all as it was. -/
structure Weathered (s : KeyspaceStore) (id : String) (now : Timestamp) (c : Call) (r : Nat) :
    Prop where
  same : r ≤ 15 ∨ s.contends id now c r = false →
    (perform (s.refusing r) id now c).1 = (perform s.faultless id now c).1 ∧
      (perform (s.refusing r) id now c).2.shared.keyspace
        = (perform s.faultless id now c).2.shared.keyspace
  contended : 16 ≤ r → s.contends id now c r = true →
    ∃ o t, c.Hands o t ∧ (perform s.faultless id now c).1 = .ok o ∧
      (perform (s.refusing r) id now c).1 = .error (.contention t.id) ∧
      (perform (s.refusing r) id now c).2.shared.keyspace = s.shared.keyspace

/-- A call gives what its stages run to. -/
lemma perform_of_runs {tr : List Stage.Event} {res : Except StoreError Outcome} {m : Refusing}
    (h : Stage.Runs s.layout (c.clock now) (2 * Stage.maxTries + 2) (Stage.start id now c)
      (s.refusing r).shared tr res m) (hres : ∀ o, res = .ok o → c.Returns o) :
    (perform (s.refusing r) id now c).1 = res ∧
      (perform (s.refusing r) id now c).2.shared = m ∧
      s.contends id now c r = Stage.contends s.layout tr := by
  obtain ⟨hrun, htrace⟩ := h.run le_rfl
  rw [CallsOf.perform_snd, CallsOf.perform_fst _ id now c fun o ho => hres o ?_, contends, htrace]
  · exact ⟨congrArg Prod.fst hrun, congrArg Prod.snd hrun, rfl⟩
  · exact (congrArg Prod.fst hrun).symm.trans ho

/-- Without refusals a call gives and leaves what it does without faults. -/
lemma perform_faultless {tr : List Stage.Event} {res : Except StoreError Outcome} {ks : Keyspace}
    (h : Stage.Runs s.layout (c.clock now) (2 * Stage.maxTries + 2) (Stage.start id now c)
      (s.refusing 0).shared tr res ⟨ks, 0⟩) (hres : ∀ o, res = .ok o → c.Returns o) :
    (perform s.faultless id now c).1 = res ∧
      (perform s.faultless id now c).2.shared.keyspace = ks := by
  have hsame := @Stage.run_refusing_zero s.layout (c.clock now) s.faultless.shared rfl
    (Stage.start id now c)
  obtain ⟨hresult, hleft⟩ := Prod.mk.inj (hsame.symm.trans (h.run le_rfl).1)
  rw [CallsOf.perform_snd, CallsOf.perform_fst _ id now c fun o ho => hres o ?_]
  · exact ⟨hresult, congrArg Refusing.keyspace hleft⟩
  · exact hresult.symm.trans ho

/-- A call on a keyspace that keeps a ledger weathers refusals. -/
lemma weathered_of_weathers
    (h : Keyspace.Weathers s.layout (c.clock now) c (Stage.start id now c) s.shared.keyspace)
    (r : Nat) : Weathered s id now c r := by
  cases h with
  | calm hres h =>
      obtain ⟨tr, hrun, hcalm⟩ := h r
      obtain ⟨tr₀, hrun₀, -⟩ := h 0
      obtain ⟨hresult, hleft, hcontends⟩ := perform_of_runs hrun hres
      obtain ⟨hresult₀, hleft₀⟩ := perform_faultless hrun₀ hres
      refine ⟨fun _ => ?_, fun _ htrue => ?_⟩
      · rw [hresult, hresult₀, hleft, hleft₀]
        exact ⟨rfl, rfl⟩
      · rw [hcontends, hcalm] at htrue
        cases htrue
  | @contended o t ks' ht hfew hmany =>
      have hreturns : ∀ o', (.ok o : Except StoreError Outcome) = .ok o' → c.Returns o' := by
        rintro _ ⟨⟩
        exact ht.returns
      obtain ⟨tr₀, hrun₀⟩ := hfew 0 (by decide)
      obtain ⟨hresult₀, hleft₀⟩ := perform_faultless hrun₀ hreturns
      rcases Nat.lt_or_ge r Stage.maxTries with hr | hr
      · obtain ⟨tr, hrun⟩ := hfew r hr
        obtain ⟨hresult, hleft, -⟩ := perform_of_runs hrun hreturns
        refine ⟨fun _ => ?_, fun hmore => absurd hr (Nat.not_lt.mpr hmore)⟩
        rw [hresult, hresult₀, hleft, hleft₀]
        exact ⟨rfl, rfl⟩
      · obtain ⟨k, rfl⟩ := Nat.exists_eq_add_of_le' hr
        obtain ⟨tr, hrun, htrue⟩ := hmany k
        obtain ⟨hresult, hleft, hcontends⟩ := perform_of_runs hrun nofun
        refine ⟨fun hsame => ?_, fun _ _ => ⟨o, t, ht, hresult₀, hresult, by rw [hleft]⟩⟩
        rw [hcontends, htrue] at hsame
        simp [Stage.maxTries] at hsame

/-- After every history, whatever reads and commits failed in it, a call that writes under guards
weathers any number of refusals.

The history is one of whole calls, one after the other, and so is the call: no other client makes a
request in between, and a refusal is a fault of the call's own commit. -/
theorem weathered_replay (name : String) {plan : FaultPlan} (hraces : plan.races = [])
    (history : List TimedCall) (hids : (TimedCall.createdIds history).Nodup) (id : String)
    (now : Timestamp) {c : Call} (hc : c.retries = true) (r : Nat) :
    Weathered (replay (emptyUnder name plan) history).2 id now c r := by
  obtain ⟨lost, L, hkeeps, -⟩ := kept_replay (keeps_emptyUnder name hraces) hids
  exact weathered_of_weathers (hkeeps.keyspace.weathers id now hc) r

/-- One task is leased and another one waits. -/
def mixedHistory : List TimedCall :=
  [⟨"a", 5, .enqueue "mail" "hello" ∅⟩, ⟨"", 7, .dequeue "w"⟩, ⟨"b", 8, .enqueue "mail" "" ∅⟩]

/-- The last try finishes the leased task; without one the waiting task stays where it is. -/
theorem weathered_mixedHistory :
    Weathered (replay (emptyUnder "queue" .none) mixedHistory).2 "" 9 (.ack "a" true none) 15 ∧
      (perform ((replay (emptyUnder "queue" .none) mixedHistory).2.refusing 15) "" 9
          (.ack "a" true none)).1
        = .ok (.task ⟨"a", "mail", "hello", ∅, .completed, 5, 9, none, none, 1⟩) ∧
      Weathered (replay (emptyUnder "queue" .none) mixedHistory).2 "" 9 (.dequeue "v") 16 ∧
      (replay (emptyUnder "queue" .none) mixedHistory).2.contends "" 9 (.dequeue "v") 16 = true :=
  ⟨weathered_replay "queue" rfl mixedHistory (by decide) "" 9 rfl 15, by decide +kernel,
    weathered_replay "queue" rfl mixedHistory (by decide) "" 9 rfl 16, by decide +kernel⟩

end KeyspaceStore

end LeaseQueue
