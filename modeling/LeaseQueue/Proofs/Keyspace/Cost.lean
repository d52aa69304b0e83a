/-
Every call is over after a number of requests that its indexes bound.

* `Stage.cost`: how many requests a stage has left at most, by the ids that it carries, the tries
  that it has, and the indexes that it may still look at;
* `Stage.cost_resume_lt`: every answer without faults lowers it, whatever the keyspace holds;
* `Stage.finished_of_cost_le`: after so many requests a call is over;
* `Stage.run_start_eq_iterate`, `Ends.run_start`: so `Stage.run` carries every call to its end.
-/
import LeaseQueue.Proofs.Keyspace.Progress

namespace LeaseQueue.Stage

/-! ### What a stage has left -/

/-- How many requests a stage has left at most. A waiting id costs one request to pop it, two for
each try to lease it and one to put it back. -/
def cost (l : Layout) (ks : Keyspace) : Stage → Nat
  | storing _ | restoring _ _ _ | fetching _ => 1
  | popping _ => (2 * maxTries + 2) * (ks.scoredSet l.pendingKey).size + 1
  | claiming _ _ _ tries =>
    (2 * maxTries + 2) * (ks.scoredSet l.pendingKey).size + 2 * (tries - 1) + 4
  | leasing _ _ _ tries _ _ =>
    (2 * maxTries + 2) * (ks.scoredSet l.pendingKey).size + 2 * tries + 3
  | acking _ _ _ tries | beating _ tries => 2 * (tries - 1) + 2
  | finishing _ _ _ tries _ _ | refreshing _ tries _ _ => 2 * tries + 1
  | scanning sweep => 2 * ((ks.scoredSet l.inProgressKey).below sweep.threshold).length + 1
  | inspecting _ _ rest _ => 2 * rest.length + 2
  | forgetting _ _ rest _ | expiring _ rest _ _ _ => 2 * rest.length + 1
  | indexing status => (ks.members (l.indexKey status)).length + 1
  | collecting _ _ rest _ => rest.length + 1
  | finished _ => 0

variable {l : Layout} {now : Timestamp} {ks : Keyspace} {stage : Stage} {q : Request}

lemma cost_nextOverdue (sweep : Sweep) (report : SweepReport) (rest : List String) :
    (nextOverdue sweep report rest).cost l ks = 2 * rest.length := by
  cases rest <;> rfl

lemma cost_nextListed (status : Option Status) (found : List Task) (rest : List String) :
    (nextListed status found rest).cost l ks = rest.length := by
  cases rest <;> rfl

/-! ### Answers -/

section Reads

variable (r : Except StoreError (Option Task))

lemma cost_claimRead_le (worker id : String) (score : Int64) (tries : Nat) :
    (claimRead now worker id score tries r).cost l ks
      ≤ (2 * maxTries + 2) * (ks.scoredSet l.pendingKey).size + 2 * (tries - 1) + 3 := by
  have hpopping : (popping worker).cost l ks
      ≤ (2 * maxTries + 2) * (ks.scoredSet l.pendingKey).size + 2 * (tries - 1) + 3 := by
    simp only [cost]
    omega
  unfold claimRead
  split
  · split_ifs
    · exact le_rfl
    · exact hpopping
  · exact hpopping
  · exact hpopping
  · exact Nat.le_add_left 1 _

lemma cost_ackRead_le (id : String) (success : Bool) (result : Option String) (tries : Nat) :
    (ackRead now id success result tries r).cost l ks ≤ 2 * (tries - 1) + 1 := by
  unfold ackRead
  split
  · split
    · exact le_rfl
    · exact Nat.zero_le _
  · exact Nat.zero_le _
  · exact Nat.zero_le _

lemma cost_beatRead_le (id : String) (tries : Nat) :
    (beatRead now id tries r).cost l ks ≤ 2 * (tries - 1) + 1 := by
  unfold beatRead
  split
  · exact le_rfl
  · exact Nat.zero_le _
  · exact Nat.zero_le _

lemma cost_overdueRead_le (sweep : Sweep) (id : String) (rest : List String)
    (report : SweepReport) :
    (overdueRead sweep id rest report r).cost l ks ≤ 2 * rest.length + 1 := by
  have hnext : (nextOverdue sweep report rest).cost l ks ≤ 2 * rest.length + 1 :=
    (cost_nextOverdue sweep report rest).trans_le (Nat.le_succ _)
  unfold overdueRead
  split
  · split_ifs
    · exact le_rfl
    · exact hnext
    · exact le_rfl
  · exact le_rfl
  · exact hnext

lemma cost_listedRead_le (status : Option Status) (rest : List String) (found : List Task) :
    (listedRead status rest found r).cost l ks ≤ rest.length := by
  unfold listedRead
  split
  · split_ifs
    · exact (cost_nextListed status _ rest).le
    · exact (cost_nextListed status found rest).le
  · exact (cost_nextListed status found rest).le
  · exact Nat.zero_le _

end Reads

/-- A call that lost a race has its tries left. -/
lemma cost_again_le {again : Stage} (e : StoreError) {tries : Nat}
    (h : again.cost l ks = 2 * (tries - 1) + 2) :
    (if tries = 0 then fail e else again).cost l ks ≤ 2 * tries := by
  split_ifs
  · exact Nat.zero_le _
  · rw [h]
    omega

/-- Every answer without faults leaves a stage that has less left, whatever the keyspace holds. -/
lemma cost_resume_lt (hq : stage.request l = some q) :
    (stage.resume l now (.ok (ks.answer q).1)).cost l (ks.answer q).2 < stage.cost l ks := by
  cases stage with
  | storing t =>
      cases hq
      exact Nat.zero_lt_one
  | popping worker =>
      cases hq
      rcases ks.popMin_cases l.pendingKey with ⟨-, heq⟩ | ⟨⟨m, x⟩, rest, hpop, hentry, hrest⟩
      · simp only [Keyspace.answer, heq, resume, cost]
        omega
      · have hsize := ScoredSet.size_popMin hpop
        simp only [Keyspace.answer, hentry, resume, cost, hrest, ← hsize, maxTries]
        omega
  | claiming worker id score tries =>
      cases hq
      exact (cost_claimRead_le _ worker id score tries).trans_lt (Nat.lt_succ_self _)
  | leasing worker id score tries read claimed =>
      cases hq
      rw [Keyspace.answer, Keyspace.commit_eq]
      split_ifs
      · exact Nat.succ_pos _
      · cases tries with
        | zero => exact Nat.lt_add_left _ (Nat.one_lt_succ_succ 1)
        | succ tries =>
            simp only [resume, retryClaim, cost]
            omega
  | restoring id score error =>
      cases hq
      exact Nat.zero_lt_one
  | acking id success result tries =>
      cases hq
      exact (cost_ackRead_le _ id success result tries).trans_lt (Nat.lt_succ_self _)
  | finishing id success result tries read done =>
      cases hq
      rw [Keyspace.answer, Keyspace.commit_eq]
      split_ifs
      · exact Nat.succ_pos _
      · exact Nat.lt_succ_of_le (cost_again_le (.contention id) rfl)
  | beating id tries =>
      cases hq
      exact (cost_beatRead_le _ id tries).trans_lt (Nat.lt_succ_self _)
  | refreshing id tries read touched =>
      cases hq
      rw [Keyspace.answer, Keyspace.commit_eq]
      split_ifs
      · exact Nat.succ_pos _
      · exact Nat.lt_succ_of_le (cost_again_le (.contention id) rfl)
  | scanning sweep =>
      cases hq
      exact (cost_nextOverdue sweep _ _).trans_lt (Nat.lt_succ_self _)
  | inspecting sweep id rest report =>
      cases hq
      exact (cost_overdueRead_le _ sweep id rest report).trans_lt (Nat.lt_succ_self _)
  | forgetting sweep id rest report =>
      cases hq
      exact (cost_nextOverdue sweep report rest).trans_lt (Nat.lt_succ_self _)
  | expiring sweep rest report read expired =>
      cases hq
      rw [Keyspace.answer, Keyspace.commit_eq]
      split_ifs <;> exact (cost_nextOverdue sweep _ rest).trans_lt (Nat.lt_succ_self _)
  | fetching id =>
      cases hq
      exact Nat.zero_lt_one
  | indexing status =>
      cases hq
      exact (cost_nextListed status [] _).trans_lt (Nat.lt_succ_self _)
  | collecting status id rest found =>
      cases hq
      exact (cost_listedRead_le _ status rest found).trans_lt (Nat.lt_succ_self _)
  | finished r => cases hq

/-! ### The end of a call -/

/-- After as many requests as it has left a call is over. -/
lemma finished_of_cost_le {n : Nat} (h : stage.cost l ks ≤ n) :
    ∃ r ks', (advance l now)^[n] (stage, ks) = (finished r, ks') := by
  induction n generalizing stage ks with
  | zero =>
      cases hq : stage.request l with
      | none =>
          obtain ⟨r, rfl⟩ := request_eq_none_iff.mp hq
          exact ⟨r, ks, rfl⟩
      | some q => exact absurd h (Nat.zero_lt_of_lt (@cost_resume_lt l 0 ks stage q hq)).not_ge
  | succ n ih =>
      rw [Function.iterate_succ_apply]
      cases hq : stage.request l with
      | none =>
          obtain ⟨r, rfl⟩ := request_eq_none_iff.mp hq
          exact ⟨r, ks, Function.iterate_fixed (advance_finished r ks) n⟩
      | some q =>
          rw [advance_of_request hq]
          exact ih (Nat.le_of_lt_succ ((cost_resume_lt hq).trans_le h))

/-- The first stage of a call has no more left than a run allows for. -/
lemma cost_start_le (l : Layout) (id : String) (now : Timestamp) (c : Call) (ks : Keyspace) :
    (start id now c).cost l ks ≤ (2 * maxTries + 2) * (ks.extent + 2) := by
  cases c with
  | enqueue type payload metadata =>
      rw [start]
      split
      · simp only [cost, maxTries]
        omega
      · exact Nat.zero_le _
  | dequeue worker =>
      have hsize := ks.size_scoredSet_le_extent l.pendingKey
      simp only [start, cost, maxTries]
      omega
  | list status =>
      have hlength := ks.length_members_le_extent (l.indexKey status)
      simp only [start, cost, maxTries]
      omega
  | recover maxAge maxAttempts =>
      have hsize := ks.size_scoredSet_le_extent l.inProgressKey
      have hbelow := ScoredSet.length_below_le (ks.scoredSet l.inProgressKey)
        (Timestamp.before now maxAge)
      simp only [start, cost, maxTries]
      omega
  | _ =>
      simp only [start, cost, maxTries]
      omega

/-- Requests beyond the end of a call change nothing. -/
lemma iterate_eq_of_cost_le {m n : Nat} (hm : stage.cost l ks ≤ m) (hn : stage.cost l ks ≤ n) :
    (advance l now)^[m] (stage, ks) = (advance l now)^[n] (stage, ks) := by
  obtain ⟨r, ks', hend⟩ := @finished_of_cost_le l now ks stage _ le_rfl
  have hstay : ∀ {n : Nat}, stage.cost l ks ≤ n →
      (advance l now)^[n] (stage, ks) = (finished r, ks') := by
    intro n hn
    rw [← Nat.sub_add_cancel hn, Function.iterate_add_apply, hend,
      Function.iterate_fixed (advance_finished r ks')]
  rw [hstay hm, hstay hn]

/-- Without faults a call runs as it advances, to its end. -/
theorem run_start_eq_iterate {m : MemoryKeyspace} (hplan : m.plan = .none) (l : Layout)
    (id : String) (now clock : Timestamp) (c : Call) {n : Nat}
    (hn : (start id now c).cost l m.keyspace ≤ n) :
    ((advance l clock)^[n] (start id now c, m.keyspace)).1
        = finished ((start id now c).run l clock m).1 ∧
      ((advance l clock)^[n] (start id now c, m.keyspace)).2
        = ((start id now c).run l clock m).2.keyspace ∧
      ((start id now c).run l clock m).2.plan = .none := by
  have hfuel := cost_start_le l id now c m.keyspace
  obtain ⟨hresult, hks, hplan'⟩ := @runFor_eq_iterate l clock (start id now c) m hplan
    ((2 * maxTries + 2) * (Answers.extent m + 2))
  rw [MemoryKeyspace.extent_of_plan hplan] at hresult hks hplan'
  obtain ⟨r, ks', hend⟩ := @finished_of_cost_le l clock m.keyspace (start id now c) _ hfuel
  rw [Stage.run, MemoryKeyspace.extent_of_plan hplan, iterate_eq_of_cost_le hn hfuel, hresult, hks,
    hend]
  exact ⟨rfl, rfl, hplan'⟩

/-- A call that ends as told runs to that end. -/
lemma Ends.run_start {m : MemoryKeyspace} {id : String} {clock : Timestamp} {c : Call} {n : Nat}
    {Q : Except StoreError Outcome → Keyspace → Prop} (hplan : m.plan = .none)
    (h : Ends l clock Q n (start id now c) m.keyspace) :
    Q ((start id now c).run l clock m).1 ((start id now c).run l clock m).2.keyspace ∧
      ((start id now c).run l clock m).2.plan = .none := by
  obtain ⟨k, -, r, ks', hiter, hQ⟩ := h
  obtain ⟨hresult, hks, hplan'⟩ := run_start_eq_iterate hplan l id now clock c
    (Nat.le_add_right ((start id now c).cost l m.keyspace) k)
  rw [Function.iterate_add_apply, hiter, Function.iterate_fixed (advance_finished r ks')]
    at hresult hks
  rw [← finished.inj hresult, ← hks]
  exact ⟨hQ, hplan'⟩

end LeaseQueue.Stage
