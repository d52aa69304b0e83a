/-
A scored set is a map from members to scores.

* `ScoredSet.Change`, `ScoredSet.after`: adding, removing and popping, and a set after such changes;
* `ScoredSet.Before`: the order of entries, by score and then by the bytes of the member;
* `ScoredSet.IsMap`: each member has one entry, entries stand in order, popping takes out the least
  member and no other, and what lies under a bound is listed in order;
* `ScoredSet.isMap_after`: so it is after all changes;
* `Keyspace.isMap_afterAll`: so is every scored set of a keyspace, whatever has been requested.
-/
import LeaseQueue.Proofs.Keyspace.View
import LeaseQueue.Proofs.Text.Bytes

namespace LeaseQueue

namespace ScoredSet

/-! ### Changes -/

/-- What can be done to a scored set. -/
inductive Change where
  | add (member : String) (score : Int64)
  | remove (member : String)
  | popMin
deriving DecidableEq, Repr

/-- The set after a change. -/
def change (s : ScoredSet) : Change → ScoredSet
  | .add m x => s.add m x
  | .remove m => s.remove m
  | .popMin =>
    match s.popMin with
    | some (_, rest) => rest
    | none => s

/-- The set after several changes. -/
def after (s : ScoredSet) (changes : List Change) : ScoredSet := changes.foldl change s

lemma InStep.change {s : ScoredSet} (h : s.InStep) (c : Change) : (s.change c).InStep := by
  cases c with
  | add m x => exact h.add m x
  | remove m => exact h.remove m
  | popMin =>
      unfold ScoredSet.change
      dsimp only
      split
      · rename_i hpop
        exact h.popMin hpop
      · exact h

lemma InStep.after {s : ScoredSet} (h : s.InStep) (changes : List Change) :
    (s.after changes).InStep := by
  induction changes generalizing s with
  | nil => exact h
  | cons c changes ih => exact ih (h.change c)

/-! ### The order of entries -/

/-- An entry stands before another one: by score, and then by the bytes of the member. -/
def Before (a b : Int64 × String) : Prop :=
  a.1 < b.1 ∨ a.1 = b.1 ∧ Text.bytes a.2 < Text.bytes b.2

lemma before_iff {a b : Int64 × String} : Before a b ↔ precedes a b = true := by
  rw [Before, Text.bytes_lt_iff, precedes_iff]

/-- The members under a bound stand in the order of their entries. -/
lemma InStep.pairwise_below {s : ScoredSet} (h : s.InStep) (bound : Int64) :
    (s.below bound).Pairwise fun m m' =>
      ∀ x x', s.score? m = some x → s.score? m' = some x' → Before (x, m) (x', m') := by
  have hsorted := h.sorted.sublist (List.takeWhile_sublist fun e => e.1 < bound)
  rw [below, List.pairwise_map]
  refine hsorted.imp_of_mem fun {a b} ha hb hab x x' hx hx' => before_iff.mpr ?_
  have hscore : ∀ e ∈ s.ordered.takeWhile (fun e => e.1 < bound), s.score? e.2 = some e.1 :=
    fun e he => (h.mem_iff e.1 e.2).mp ((mem_takeWhile_iff h.sorted).mp he).1
  obtain rfl := Option.some.inj ((hscore a ha).symm.trans hx)
  obtain rfl := Option.some.inj ((hscore b hb).symm.trans hx')
  exact hab

/-! ### The map -/

/-- The set is a map from members to scores, with its entries in order. -/
structure IsMap (s : ScoredSet) : Prop where
  /-- The entries are those of the members with their scores. -/
  entries : ∀ x m, (x, m) ∈ s.ordered ↔ s.score? m = some x
  once : (s.ordered.map (·.2)).Nodup
  increasing : s.ordered.Pairwise Before
  add : ∀ m x m', (s.add m x).score? m' = if m' = m then some x else s.score? m'
  remove : ∀ m m', (s.remove m).score? m' = if m' = m then none else s.score? m'
  popMin_eq_none : s.popMin = none ↔ ∀ m, s.score? m = none
  /-- What is popped comes before all other members, and nothing else is taken out. -/
  popMin_eq_some : ∀ m x rest, s.popMin = some ((m, x), rest) →
    s.score? m = some x ∧
      (∀ m' x', s.score? m' = some x' → m' ≠ m → Before (x, m) (x', m')) ∧
      ∀ m', rest.score? m' = if m' = m then none else s.score? m'
  mem_below : ∀ bound m, m ∈ s.below bound ↔ ∃ x, s.score? m = some x ∧ x < bound
  below_increasing : ∀ bound, (s.below bound).Pairwise fun m m' =>
    ∀ x x', s.score? m = some x → s.score? m' = some x' → Before (x, m) (x', m')

/-- A set whose indexes are in step is a map. -/
lemma InStep.isMap {s : ScoredSet} (h : s.InStep) : s.IsMap where
  entries := h.mem_iff
  once := by
    refine List.Nodup.map_on (fun a ha b hb hab => ?_) h.nodup
    have hscore := (h.mem_iff a.1 a.2).mp ha
    rw [hab, (h.mem_iff b.1 b.2).mp hb, Option.some_inj] at hscore
    exact Prod.ext hscore.symm hab
  increasing := h.sorted.imp fun hab => before_iff.mpr hab
  add m x m' := score?_add s m m' x
  remove m m' := score?_remove s m m'
  popMin_eq_none := popMin_eq_none_iff h
  popMin_eq_some m x rest hpop := by
    obtain ⟨hscore, hleast⟩ := h.popMin_least hpop
    exact ⟨hscore, fun m' x' hx' hne => before_iff.mpr (hleast m' x' hx' hne),
      score?_popMin hpop⟩
  mem_below _ _ := h.mem_below_iff
  below_increasing := h.pairwise_below

/-- After all changes a scored set is a map from members to scores. -/
theorem isMap_after (changes : List Change) : (empty.after changes).IsMap :=
  (inStep_empty.after changes).isMap

/-- Scoring a member anew moves it, and equal scores stand in the order of their members. -/
example : (empty.after [.add "b" 7, .add "c" 1, .add "a" 7, .add "c" 9, .popMin]).below 10
    = ["b", "c"] := by decide

end ScoredSet

/-! ### Scored sets of a keyspace -/

namespace Keyspace

/-- The keyspace after several requests. -/
def afterAll (ks : Keyspace) (requests : List Request) : Keyspace :=
  requests.foldl (fun ks q => (ks.answer q).2) ks

lemma InStep.afterAll {ks : Keyspace} (h : ks.InStep) (requests : List Request) :
    (ks.afterAll requests).InStep := by
  induction requests generalizing ks with
  | nil => exact h
  | cons q requests ih => exact ih (h.answer q)

/-- After all requests every scored set of a keyspace is a map from members to scores. -/
theorem isMap_afterAll (requests : List Request) (key : String) :
    ((empty.afterAll requests).scoredSet key).IsMap :=
  (inStep_empty.afterAll requests key).isMap

end Keyspace

end LeaseQueue
