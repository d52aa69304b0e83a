/-
Calls on a memory whose reads and commits may fail.

* `Keyspace.Answered`: the answers that a request may get, with the keyspace after it; a request
  that fails writes nothing;
* `Stage.transcript`: the requests of a call, each with its answer;
* `Stage.Settles`: whatever fails, a call is over after at most so many requests, with a transcript,
  a result and a keyspace as told;
* `Settles.run`: a call that settles within the fuel of `Stage.run` runs to its end.

A memory without foreign batches gives such answers, whatever its plan of faults.
-/
import LeaseQueue.Proofs.Keyspace.Progress

namespace LeaseQueue

/-! ### Answers with faults -/

/-- The answers that a request may get, and the keyspace after it: that of the keyspace itself, or a
fault. Reads of hashes break, commits break or are refused. -/
inductive Keyspace.Answered (ks : Keyspace) :
    Request → Except StoreError Reply → Keyspace → Prop where
  | sound (q : Request) : Answered ks q (.ok (ks.answer q).1) (ks.answer q).2
  | unread (key : String) :
    Answered ks (.readHash key) (.error MemoryKeyspace.connectionReset) ks
  | broken (batch : Batch) :
    Answered ks (.commit batch) (.error MemoryKeyspace.connectionReset) ks
  | refused (batch : Batch) : Answered ks (.commit batch) (.ok (.committed false)) ks

namespace MemoryKeyspace

variable {m : MemoryKeyspace}

lemma answered_commitGuarded (h : m.plan.races = []) (batch : Batch) :
    m.keyspace.Answered (.commit batch) (m.commitGuarded batch).1
        (m.commitGuarded batch).2.keyspace ∧
      (m.commitGuarded batch).2.plan.races = [] := by
  obtain ⟨ks, ⟨reads, commits, races⟩, calls⟩ := m
  dsimp only at h
  subst h
  exact ⟨.sound (.commit batch), rfl⟩

/-- Without foreign batches a memory answers as its keyspace does, or by a fault. -/
lemma answered (h : m.plan.races = []) (q : Request) :
    m.keyspace.Answered q (Answers.answer m q).1 (Answers.answer m q).2.keyspace ∧
      (Answers.answer m q).2.plan.races = [] := by
  cases q with
  | readHash key =>
      change m.keyspace.Answered _ (m.readHash key).1 (m.readHash key).2.keyspace ∧
        (m.readHash key).2.plan.races = []
      unfold readHash
      split
      · exact ⟨.sound (.readHash key), h⟩
      · split_ifs
        · exact ⟨.unread key, h⟩
        · exact ⟨.sound (.readHash key), h⟩
  | commit batch =>
      change m.keyspace.Answered _ (m.commit batch).1 (m.commit batch).2.keyspace ∧
        (m.commit batch).2.plan.races = []
      unfold commit
      dsimp only
      split
      · exact answered_commitGuarded (m := ⟨m.keyspace, m.plan, _⟩) h batch
      · exact answered_commitGuarded (m := ⟨m.keyspace, { m.plan with commits := _ }, _⟩) h batch
      · exact ⟨.broken batch, h⟩
      · exact ⟨.refused batch, h⟩
  | popMin key => exact ⟨.sound (.popMin key), h⟩
  | below key bound => exact ⟨.sound (.below key bound), h⟩
  | members key => exact ⟨.sound (.members key), h⟩

end MemoryKeyspace

/-! ### Calls with faults -/

namespace Stage

/-- A stage with the answer to its request. -/
abbrev Event := Stage × Except StoreError Reply

/-- The requests that a call makes with some fuel, each with its answer. -/
def transcript {σ : Type} [Answers σ] (l : Layout) (now : Timestamp) :
    (fuel : Nat) → Stage → σ → List Event
  | 0, _, _ => []
  | fuel + 1, stage, s =>
    match stage.request l with
    | none => []
    | some q =>
      (stage, (Answers.answer s q).1) ::
        transcript l now fuel (stage.resume l now (Answers.answer s q).1) (Answers.answer s q).2

/-- Whatever fails, a call is over after at most `n` requests, with a transcript, a result and a
keyspace as told. -/
inductive Settles (l : Layout) (now : Timestamp) :
    (List Event → Except StoreError Outcome → Keyspace → Prop) → Nat → Stage → Keyspace → Prop where
  | finished {Q : List Event → Except StoreError Outcome → Keyspace → Prop} {n : Nat}
    {r : Except StoreError Outcome} {ks : Keyspace} (h : Q [] r ks) :
    Settles l now Q n (finished r) ks
  | step {Q : List Event → Except StoreError Outcome → Keyspace → Prop} {n : Nat} {stage : Stage}
    {ks : Keyspace} {q : Request} (hq : stage.request l = some q)
    (h : ∀ a ks', ks.Answered q a ks' →
      Settles l now (fun tr => Q ((stage, a) :: tr)) n (stage.resume l now a) ks') :
    Settles l now Q (n + 1) stage ks

variable {l : Layout} {now : Timestamp} {n : Nat} {stage : Stage} {ks : Keyspace}
  {Q : List Event → Except StoreError Outcome → Keyspace → Prop}

lemma Settles.mono {Q' : List Event → Except StoreError Outcome → Keyspace → Prop} {m : Nat}
    (h : Settles l now Q n stage ks) (hnm : n ≤ m) (hQ : ∀ tr r ks', Q tr r ks' → Q' tr r ks') :
    Settles l now Q' m stage ks := by
  induction h generalizing Q' m with
  | finished h => exact .finished (hQ _ _ _ h)
  | step hq h ih =>
      obtain ⟨m, rfl⟩ : ∃ k, m = k + 1 := ⟨m - 1, by omega⟩
      exact .step hq fun a ks' ha =>
        ih a ks' ha (Nat.le_of_succ_le_succ hnm) fun tr r ks'' => hQ ((_, a) :: tr) r ks''

/-- A request that never fails. -/
lemma Settles.ask {q : Request} (hq : stage.request l = some q)
    (hread : ∀ key, q ≠ .readHash key) (hcommit : ∀ batch, q ≠ .commit batch)
    (h : Settles l now (fun tr => Q ((stage, .ok (ks.answer q).1) :: tr)) n
      (stage.resume l now (.ok (ks.answer q).1)) (ks.answer q).2) :
    Settles l now Q (n + 1) stage ks := by
  refine .step hq fun a ks' ha => ?_
  cases ha with
  | sound => exact h
  | unread key => exact absurd rfl (hread key)
  | broken batch => exact absurd rfl (hcommit batch)
  | refused batch => exact absurd rfl (hcommit batch)

/-- A read is answered or breaks. -/
lemma Settles.read {key : String} (hq : stage.request l = some (.readHash key))
    (hok : Settles l now (fun tr => Q ((stage, .ok (.fields (ks.hash key))) :: tr)) n
      (stage.resume l now (.ok (.fields (ks.hash key)))) ks)
    (hbroken : Settles l now
      (fun tr => Q ((stage, .error MemoryKeyspace.connectionReset) :: tr)) n
      (stage.resume l now (.error MemoryKeyspace.connectionReset)) ks) :
    Settles l now Q (n + 1) stage ks := by
  refine .step hq fun a ks' ha => ?_
  cases ha with
  | sound => exact hok
  | unread => exact hbroken

/-- A batch whose guards hold is applied, breaks or is refused. -/
lemma Settles.commit {batch : Batch} {ks' : Keyspace}
    (hq : stage.request l = some (.commit batch))
    (hanswer : ks.answer (.commit batch) = (.committed true, ks'))
    (hdone : Settles l now (fun tr => Q ((stage, .ok (.committed true)) :: tr)) n
      (stage.resume l now (.ok (.committed true))) ks')
    (hbroken : Settles l now
      (fun tr => Q ((stage, .error MemoryKeyspace.connectionReset) :: tr)) n
      (stage.resume l now (.error MemoryKeyspace.connectionReset)) ks)
    (hrefused : Settles l now (fun tr => Q ((stage, .ok (.committed false)) :: tr)) n
      (stage.resume l now (.ok (.committed false))) ks) :
    Settles l now Q (n + 1) stage ks := by
  refine .step hq fun a ks'' ha => ?_
  cases ha with
  | sound =>
      rw [hanswer]
      exact hdone
  | broken => exact hbroken
  | refused => exact hrefused

/-- A call that settles runs to its end, whatever the plan of faults. -/
lemma Settles.runFor {fuel : Nat} {m : MemoryKeyspace} (h : Settles l now Q n stage ks)
    (hks : m.keyspace = ks) (hraces : m.plan.races = []) (hn : n ≤ fuel) :
    Q (transcript l now fuel stage m) (runFor l now fuel stage m).1
        (runFor l now fuel stage m).2.keyspace ∧
      (runFor l now fuel stage m).2.plan.races = [] := by
  induction h generalizing fuel m with
  | @finished Q n r ks h =>
      subst hks
      cases fuel <;> exact ⟨h, hraces⟩
  | @step Q n stage ks q hq h ih =>
      subst hks
      obtain ⟨fuel, rfl⟩ : ∃ k, fuel = k + 1 := ⟨fuel - 1, by omega⟩
      obtain ⟨hanswered, hraces'⟩ := MemoryKeyspace.answered hraces q
      have hrest := ih _ _ hanswered rfl hraces' (Nat.le_of_succ_le_succ hn)
      rw [transcript, Stage.runFor, hq]
      exact hrest

/-- The requests of a call that is carried on until it is finished, each with its answer. -/
def trace {σ : Type} [Answers σ] (l : Layout) (now : Timestamp) (stage : Stage) (s : σ) :
    List Event :=
  transcript l now ((2 * maxTries + 2) * (Answers.extent s + 2)) stage s

/-- A call that settles within the fuel of `Stage.run` runs to its end. -/
lemma Settles.run {m : MemoryKeyspace} (h : Settles l now Q n stage m.keyspace)
    (hraces : m.plan.races = []) (hn : n ≤ (2 * maxTries + 2) * (m.keyspace.extent + 2)) :
    Q (trace l now stage m) (stage.run l now m).1 (stage.run l now m).2.keyspace ∧
      (stage.run l now m).2.plan.races = [] := by
  have hextent : Answers.extent m = m.keyspace.extent := by
    obtain ⟨ks, ⟨reads, commits, races⟩, calls⟩ := m
    dsimp only at hraces
    subst hraces
    rfl
  exact h.runFor rfl hraces (hextent ▸ hn)

end Stage

end LeaseQueue
