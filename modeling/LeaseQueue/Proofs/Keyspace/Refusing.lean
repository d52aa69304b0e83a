/-
Calls whose first guarded batches are refused.

* `Refusing`: a keyspace that refuses the next so many batches with guards, whatever they find, and
  answers everything else as it is;
* `Stage.Runs`: a call runs to its end in at most so many requests;
* `Stage.run_refusing_zero`: without refusals it does what it does in a memory without faults;
* `Stage.contends`: whether some of the requests of a call was a batch with guards;
* `Stage.Retries`: the stages of a loop that reads a task, writes it under guards, and reads it
  again when it is refused;
* `Retries.runs_of_lt`, `Retries.runs_of_le`: such a loop returns the same after fewer refusals than
  it has tries, and gives up after as many.
-/
import LeaseQueue.Proofs.Keyspace.Faults

namespace LeaseQueue

/-! ### Refusals -/

/-- Whether a request is a batch with guards. -/
def Request.isGuarded : Request → Bool
  | .commit batch => !batch.guards.isEmpty
  | _ => false

/-- A keyspace that refuses the next so many batches with guards. -/
structure Refusing where
  keyspace : Keyspace
  refusals : Nat

namespace Refusing

instance : Answers Refusing where
  answer m q :=
    if q.isGuarded && 0 < m.refusals then
      (.ok (.committed false), { m with refusals := m.refusals - 1 })
    else (.ok (m.keyspace.answer q).1, { m with keyspace := (m.keyspace.answer q).2 })
  extent m := m.keyspace.extent

variable {ks : Keyspace} {q : Request} {r : Nat}

lemma answer_refused (hq : q.isGuarded = true) :
    Answers.answer (⟨ks, r + 1⟩ : Refusing) q = (.ok (.committed false), ⟨ks, r⟩) := by
  simp [Answers.answer, hq]

/-- What is not refused is answered by the keyspace. -/
lemma answer_of_calm (h : q.isGuarded = false ∨ r = 0) :
    Answers.answer (⟨ks, r⟩ : Refusing) q
      = (.ok (ks.answer q).1, ⟨(ks.answer q).2, r⟩) := by
  rcases h with h | rfl <;> simp [Answers.answer, *]

end Refusing

namespace Stage

/-! ### Calls that run to their end -/

/-- A call runs to its end in at most `n` requests, with a transcript, a result and a state. -/
inductive Runs {σ : Type} [Answers σ] (l : Layout) (now : Timestamp) :
    Nat → Stage → σ → List Event → Except StoreError Outcome → σ → Prop
  | finished {n : Nat} {r : Except StoreError Outcome} {s : σ} :
    Runs l now n (finished r) s [] r s
  | step {n : Nat} {stage : Stage} {s s' s'' : σ} {q : Request} {a : Except StoreError Reply}
    {tr : List Event} {r : Except StoreError Outcome} (hq : stage.request l = some q)
    (ha : Answers.answer s q = (a, s')) (h : Runs l now n (stage.resume l now a) s' tr r s'') :
    Runs l now (n + 1) stage s ((stage, a) :: tr) r s''

variable {l : Layout} {now : Timestamp} {n k r : Nat} {ks ks' : Keyspace}
  {tr : List Event} {res : Except StoreError Outcome}

/-- A request that is not refused is answered by the keyspace. -/
lemma Runs.ask {stage : Stage} {q : Request} {a : Reply} {s : Refusing}
    (hq : stage.request l = some q) (hcalm : q.isGuarded = false ∨ r = 0)
    (ha : ks.answer q = (a, ks'))
    (h : Runs l now n (stage.resume l now (.ok a)) (⟨ks', r⟩ : Refusing) tr res s) :
    Runs l now (n + 1) stage (⟨ks, r⟩ : Refusing) ((stage, .ok a) :: tr) res s :=
  .step hq (by rw [Refusing.answer_of_calm hcalm, ha]) h

lemma Runs.mono {σ : Type} [Answers σ] {stage : Stage} {s s' : σ} {m : Nat}
    (h : Runs l now n stage s tr res s') (hnm : n ≤ m) : Runs l now m stage s tr res s' := by
  induction h generalizing m with
  | finished => exact .finished
  | step hq ha h ih =>
      obtain ⟨m, rfl⟩ : ∃ k, m = k + 1 := ⟨m - 1, by omega⟩
      exact .step hq ha (ih (Nat.le_of_succ_le_succ hnm))

lemma Runs.runFor {σ : Type} [Answers σ] {stage : Stage} {s s' : σ}
    (h : Runs l now n stage s tr res s') {fuel : Nat} (hn : n ≤ fuel) :
    runFor l now fuel stage s = (res, s') ∧ transcript l now fuel stage s = tr := by
  induction h generalizing fuel with
  | finished => cases fuel <;> exact ⟨rfl, rfl⟩
  | step hq ha h ih =>
      obtain ⟨fuel, rfl⟩ : ∃ m, fuel = m + 1 := ⟨fuel - 1, by omega⟩
      obtain ⟨hrun, htranscript⟩ := ih (Nat.le_of_succ_le_succ hn)
      simp only [Stage.runFor, transcript, hq, ha, hrun, htranscript, and_self]

/-- A call that is over within the fuel of `Stage.run` runs so. -/
lemma Runs.run {σ : Type} [Answers σ] {stage : Stage} {s s' : σ}
    (h : Runs l now n stage s tr res s') (hn : n ≤ 2 * maxTries + 2) :
    stage.run l now s = (res, s') ∧ trace l now stage s = tr :=
  h.runFor (hn.trans (Nat.le_mul_of_pos_right _ (Nat.succ_pos _)))

/-- Without refusals a call runs as it advances. -/
lemma runFor_refusing_zero (fuel : Nat) (stage : Stage) (ks : Keyspace) :
    runFor l now fuel stage (⟨ks, 0⟩ : Refusing)
      = (((advance l now)^[fuel] (stage, ks)).1.result,
        ⟨((advance l now)^[fuel] (stage, ks)).2, 0⟩) := by
  induction fuel generalizing stage ks with
  | zero => rfl
  | succ fuel ih =>
      cases hq : stage.request l with
      | none =>
          obtain ⟨res, rfl⟩ := request_eq_none_iff.mp hq
          rw [Function.iterate_fixed (advance_finished res ks)]
          rfl
      | some q =>
          rw [Function.iterate_succ_apply, advance_of_request hq, runFor, hq]
          dsimp only
          rw [Refusing.answer_of_calm (.inr rfl)]
          exact ih _ _

/-- Without refusals a call runs as in a memory without faults. -/
lemma run_refusing_zero {m : MemoryKeyspace} (h : m.plan = .none) (stage : Stage) :
    stage.run l now (⟨m.keyspace, 0⟩ : Refusing)
      = ((stage.run l now m).1, ⟨(stage.run l now m).2.keyspace, 0⟩) := by
  have hextent : Answers.extent m = Answers.extent (⟨m.keyspace, 0⟩ : Refusing) :=
    MemoryKeyspace.extent_of_plan h
  obtain ⟨hresult, hks, -⟩ :=
    @runFor_eq_iterate l now stage m h ((2 * maxTries + 2) * (Answers.extent m + 2))
  rw [run, run, hresult, hks, hextent]
  exact runFor_refusing_zero _ stage m.keyspace

/-- Whether some of the requests of a call was a batch with guards. -/
def contends (l : Layout) (tr : List Event) : Bool :=
  tr.any fun ev => (ev.1.request l).any Request.isGuarded

lemma contends_cons {stage : Stage} {q : Request} (hq : stage.request l = some q)
    (a : Except StoreError Reply) :
    contends l ((stage, a) :: tr) = (q.isGuarded || contends l tr) := by
  rw [contends, List.any_cons, hq]
  rfl

/-! ### Loops under guards -/

/-- The stages of a loop that reads a task and writes it under guards that hold: `reading k` has `k`
tries left, and `reading 0` gives up. -/
structure Retries (l : Layout) (now : Timestamp) (ks ks' : Keyspace)
    (res : Except StoreError Outcome) (reading writing : Nat → Stage) : Prop where
  read : ∀ k, ∃ key, (reading (k + 1)).request l = some (.readHash key) ∧
    (reading (k + 1)).resume l now (.ok (.fields (ks.hash key))) = writing k
  write : ∃ batch, batch.guards ≠ [] ∧ ks.answer (.commit batch) = (.committed true, ks') ∧
    ∀ k, (writing k).request l = some (.commit batch)
  accepted : ∀ k, (writing k).resume l now (.ok (.committed true)) = .finished res
  refused : ∀ k, (writing k).resume l now (.ok (.committed false)) = reading k

namespace Retries

variable {reading writing : Nat → Stage}

/-- Reading the task is never refused. -/
lemma runs_read (h : Retries l now ks ks' res reading writing) {res' : Except StoreError Outcome}
    {s : Refusing} (hrest : Runs l now n (writing k) (⟨ks, r⟩ : Refusing) tr res' s) :
    ∃ tr', Runs l now (n + 1) (reading (k + 1)) (⟨ks, r⟩ : Refusing) tr' res' s ∧
      contends l tr' = contends l tr := by
  obtain ⟨key, hread, hresume⟩ := h.read k
  rw [← hresume] at hrest
  exact ⟨_, .ask hread (.inl rfl) rfl hrest, contends_cons hread _⟩

/-- A try that is refused leaves the others. -/
lemma runs_refused (h : Retries l now ks ks' res reading writing) {res' : Except StoreError Outcome}
    {s : Refusing} (hrest : Runs l now n (reading k) (⟨ks, r⟩ : Refusing) tr res' s) :
    ∃ tr', Runs l now (n + 2) (reading (k + 1)) (⟨ks, r + 1⟩ : Refusing) tr' res' s ∧
      contends l tr' = true := by
  obtain ⟨batch, hguards, -, hwrite⟩ := h.write
  have hguarded : (Request.commit batch).isGuarded = true := by
    simpa [Request.isGuarded] using hguards
  rw [← h.refused k] at hrest
  obtain ⟨tr', hrun, hcontends⟩ :=
    h.runs_read (.step (hwrite k) (Refusing.answer_refused hguarded) hrest)
  refine ⟨tr', hrun, ?_⟩
  rw [hcontends, contends_cons (hwrite k), hguarded, Bool.true_or]

/-- After fewer refusals than it has tries a loop writes what it writes without refusals. -/
lemma runs_of_lt (h : Retries l now ks ks' res reading writing) (hr : r < k) :
    ∃ tr, Runs l now (2 * k) (reading k) (⟨ks, r⟩ : Refusing) tr res ⟨ks', 0⟩ := by
  obtain ⟨k, rfl⟩ : ∃ m, k = m + 1 := ⟨k - 1, by omega⟩
  induction r generalizing k with
  | zero =>
      obtain ⟨batch, -, hanswer, hwrite⟩ := h.write
      have hover : Runs l now (2 * k) ((writing k).resume l now (.ok (.committed true)))
          (⟨ks', 0⟩ : Refusing) [] res ⟨ks', 0⟩ := by
        rw [h.accepted]
        exact .finished
      obtain ⟨tr, hrun, -⟩ := h.runs_read (.ask (hwrite k) (.inr rfl) hanswer hover)
      exact ⟨tr, hrun⟩
  | succ r ih =>
      obtain ⟨k, rfl⟩ : ∃ m, k = m + 1 := ⟨k - 1, by omega⟩
      obtain ⟨tr, hrest⟩ := ih k (Nat.lt_of_succ_lt_succ hr)
      obtain ⟨tr', hrun, -⟩ := h.runs_refused hrest
      exact ⟨tr', hrun⟩

/-- After as many refusals as it has tries a loop gives up. -/
lemma runs_of_le (h : Retries l now ks ks' res reading writing) (hk : 0 < k)
    {res' : Except StoreError Outcome} {s : Refusing}
    (hend : Runs l now n (reading 0) (⟨ks, r⟩ : Refusing) tr res' s) :
    ∃ tr', Runs l now (n + 2 * k) (reading k) (⟨ks, r + k⟩ : Refusing) tr' res' s ∧
      contends l tr' = true := by
  induction k, hk using Nat.le_induction with
  | base => exact h.runs_refused hend
  | succ k _ ih =>
      obtain ⟨tr', hrest, -⟩ := ih
      exact h.runs_refused hrest

end Retries

end Stage

end LeaseQueue
