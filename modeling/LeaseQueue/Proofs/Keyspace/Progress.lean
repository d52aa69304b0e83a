/-
Calls carried on until they are over.

* `Stage.advance`: one request of a call and its answer, without faults;
* `Stage.Ends`: a call is over after at most so many requests, with a result and a keyspace as told;
* `Ends.step`: one more request before a call that ends;
* `Stage.runFor_eq_iterate`: without faults a call runs as it advances;
* `size_scoredSet_le_extent`, `length_members_le_extent`: the fuel covers every entry of an index.
-/
import LeaseQueue.Keyspace.Store
import LeaseQueue.Proofs.Keyspace.View

namespace LeaseQueue

/-! ### Requests without faults -/

namespace Stage

/-- One request of a call and its answer. -/
def advance (l : Layout) (now : Timestamp) (p : Stage × Keyspace) : Stage × Keyspace :=
  match p.1.request l with
  | none => p
  | some q => (p.1.resume l now (.ok (p.2.answer q).1), (p.2.answer q).2)

/-- A call is over after at most `n` requests, with a result and a keyspace as told. -/
def Ends (l : Layout) (now : Timestamp) (Q : Except StoreError Outcome → Keyspace → Prop)
    (n : Nat) (stage : Stage) (ks : Keyspace) : Prop :=
  ∃ k ≤ n, ∃ r ks', (advance l now)^[k] (stage, ks) = (finished r, ks') ∧ Q r ks'

variable {l : Layout} {now : Timestamp} {Q : Except StoreError Outcome → Keyspace → Prop}
  {n : Nat} {stage : Stage} {ks : Keyspace}

lemma advance_finished (r : Except StoreError Outcome) (ks : Keyspace) :
    advance l now (finished r, ks) = (finished r, ks) := rfl

lemma advance_of_request {q : Request} (hq : stage.request l = some q) :
    advance l now (stage, ks)
      = (stage.resume l now (.ok (ks.answer q).1), (ks.answer q).2) := by
  rw [advance, hq]

/-- Only a call that is over asks for nothing. -/
lemma request_eq_none_iff : stage.request l = none ↔ ∃ r, stage = finished r := by
  constructor
  · intro h
    cases stage with
    | finished r => exact ⟨r, rfl⟩
    | _ => simp [request] at h
  · rintro ⟨r, rfl⟩
    rfl

lemma Ends.finished {r : Except StoreError Outcome} (h : Q r ks) :
    Ends l now Q n (finished r) ks :=
  ⟨0, Nat.zero_le n, r, ks, rfl, h⟩

/-- One more request before a call that ends. -/
lemma Ends.step {q : Request} {a : Reply} {ks' : Keyspace} (hq : stage.request l = some q)
    (ha : ks.answer q = (a, ks')) (h : Ends l now Q n (stage.resume l now (.ok a)) ks') :
    Ends l now Q (n + 1) stage ks := by
  obtain ⟨k, hk, r, ks'', hiter, hQ⟩ := h
  refine ⟨k + 1, Nat.succ_le_succ hk, r, ks'', ?_, hQ⟩
  rw [Function.iterate_succ_apply, advance_of_request hq, ha, hiter]

lemma Ends.mono {Q' : Except StoreError Outcome → Keyspace → Prop} {m : Nat}
    (h : Ends l now Q n stage ks) (hnm : n ≤ m) (hQ : ∀ r ks', Q r ks' → Q' r ks') :
    Ends l now Q' m stage ks := by
  obtain ⟨k, hk, r, ks', hiter, h⟩ := h
  exact ⟨k, hk.trans hnm, r, ks', hiter, hQ r ks' h⟩

end Stage

/-! ### A memory without faults -/

namespace MemoryKeyspace

/-- Without faults a memory answers as its keyspace does. -/
lemma answer_of_plan {m : MemoryKeyspace} (h : m.plan = .none) (q : Request) :
    (Answers.answer m q).1 = .ok (m.keyspace.answer q).1 ∧
      (Answers.answer m q).2.keyspace = (m.keyspace.answer q).2 ∧
      (Answers.answer m q).2.plan = .none := by
  obtain ⟨ks, plan, calls⟩ := m
  dsimp only at h
  subst h
  cases q <;> exact ⟨rfl, rfl, rfl⟩

/-- Without foreign batches only its keyspace bounds what a call can meet. -/
lemma extent_of_plan {m : MemoryKeyspace} (h : m.plan = .none) :
    Answers.extent m = m.keyspace.extent := by
  obtain ⟨ks, plan, calls⟩ := m
  dsimp only at h
  subst h
  rfl

end MemoryKeyspace

namespace Stage

variable {l : Layout} {now : Timestamp} {Q : Except StoreError Outcome → Keyspace → Prop}
  {n : Nat} {stage : Stage} {m : MemoryKeyspace}

/-- Without faults a call runs as it advances. -/
lemma runFor_eq_iterate (h : m.plan = .none) (fuel : Nat) :
    (runFor l now fuel stage m).1
        = ((advance l now)^[fuel] (stage, m.keyspace)).1.result ∧
      (runFor l now fuel stage m).2.keyspace
        = ((advance l now)^[fuel] (stage, m.keyspace)).2 ∧
      (runFor l now fuel stage m).2.plan = .none := by
  induction fuel generalizing stage m with
  | zero => exact ⟨rfl, rfl, h⟩
  | succ fuel ih =>
      cases hq : stage.request l with
      | none =>
          obtain ⟨r, rfl⟩ := request_eq_none_iff.mp hq
          rw [Function.iterate_fixed (advance_finished r m.keyspace)]
          exact ⟨rfl, rfl, h⟩
      | some q =>
          obtain ⟨hanswer, hks, hplan⟩ := MemoryKeyspace.answer_of_plan h q
          rw [Function.iterate_succ_apply, advance_of_request hq, runFor, hq]
          dsimp only
          rw [hanswer, ← hks]
          exact ih hplan

end Stage

/-! ### The fuel of a call -/

namespace Keyspace

/-- A summand is at most the sum. -/
lemma le_foldr_of_mem {α : Type} (size : α → Nat) {l : List α} {a : α} (h : a ∈ l) :
    size a ≤ l.foldr (fun e n => size e + n) 0 := by
  induction l with
  | nil => simp at h
  | cons b l ih =>
      rw [List.foldr_cons]
      rcases List.mem_cons.mp h with rfl | h
      · omega
      · have := ih h
        omega

/-- No scored set has more entries than a call allows for. -/
lemma size_scoredSet_le_extent (ks : Keyspace) (key : String) :
    (ks.scoredSet key).size ≤ ks.extent := by
  rw [scoredSet, SortedMap.getD_eq, extent]
  cases h : ks.scored.get? key with
  | none => exact Nat.zero_le _
  | some s =>
      have hmem := SortedMap.mem_entries_iff.mpr h
      have hle := le_foldr_of_mem (fun e : String × ScoredSet => e.2.size) hmem
      rw [Option.getD_some]
      exact Nat.le_add_right_of_le hle

/-- No set has more members than a call allows for. -/
lemma length_members_le_extent (ks : Keyspace) (key : String) :
    (ks.members key).length ≤ ks.extent := by
  rw [members, SortedMap.keys, List.length_map, SortedMap.getD_eq, extent]
  cases h : ks.sets.get? key with
  | none => exact Nat.zero_le _
  | some s =>
      have hmem := SortedMap.mem_entries_iff.mpr h
      have hle := le_foldr_of_mem (fun e : String × SortedMap Unit => e.2.size) hmem
      rw [Option.getD_some]
      exact Nat.le_add_left_of_le hle

end Keyspace

end LeaseQueue
