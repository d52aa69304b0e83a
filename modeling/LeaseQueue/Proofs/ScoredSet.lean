/-
The two indexes of a scored set.

* `ScoredSet.InStep`: the list of pairs is in increasing order and holds exactly the scored members;
* `InStep.add`, `InStep.remove`, `InStep.popMin`: every operation keeps the indexes in step;
* `popMin_eq_some`: what popping takes out of the two indexes;
* `score?_add`, `score?_remove`, `score?_popMin`: what an operation does to the scores;
* `InStep.popMin_least`: the member popped comes before all others;
* `InStep.add_of_popMin`: a popped member that is added again was never gone;
* `InStep.mem_below_iff`: the members under a bound are those with a score under it.
-/
import LeaseQueue.Keyspace.ScoredSet
import LeaseQueue.Proofs.SortedMap

namespace LeaseQueue.ScoredSet

/-! ### The order of entries -/

lemma precedes_iff {a b : Int64 × String} :
    precedes a b = true ↔ a.1 < b.1 ∨ (a.1 = b.1 ∧ a.2 < b.2) := by
  simp [precedes]

lemma not_precedes_self (a : Int64 × String) : ¬ precedes a a = true := by
  rw [precedes_iff]
  rintro (h | ⟨-, h⟩)
  · exact Int64.lt_irrefl h
  · exact String.lt_irrefl a.2 h

lemma precedes_trans {a b c : Int64 × String} (hab : precedes a b = true)
    (hbc : precedes b c = true) : precedes a c = true := by
  rw [precedes_iff] at *
  rcases hab with h₁ | ⟨h₁, h₁'⟩ <;> rcases hbc with h₂ | ⟨h₂, h₂'⟩
  · exact Or.inl (Int64.lt_trans h₁ h₂)
  · exact Or.inl (h₂ ▸ h₁)
  · exact Or.inl (h₁ ▸ h₂)
  · exact Or.inr ⟨h₁.trans h₂, String.lt_trans h₁' h₂'⟩

/-- Two different entries come one before the other. -/
lemma precedes_of_not_precedes {a b : Int64 × String} (h : ¬ precedes a b = true) (hne : a ≠ b) :
    precedes b a = true := by
  rw [precedes_iff] at *
  rw [not_or, not_and] at h
  obtain ⟨h₁, h₂⟩ := h
  rcases Int64.lt_or_eq_of_le (Int64.not_lt.mp h₁) with hlt | heq
  · exact Or.inl hlt
  · refine Or.inr ⟨heq, ?_⟩
    have hle := String.not_lt.mp (h₂ heq.symm)
    by_contra hnot
    exact hne (Prod.ext heq.symm (String.le_antisymm (String.not_lt.mp hnot) hle))

/-! ### Placing an entry -/

lemma mem_place {e a : Int64 × String} {l : List (Int64 × String)} :
    a ∈ place e l ↔ a = e ∨ a ∈ l := by
  induction l with
  | nil => simp [place]
  | cons b rest ih =>
      rw [place]
      split_ifs
      · simp
      · rw [List.mem_cons, ih, List.mem_cons]
        tauto

lemma pairwise_place {e : Int64 × String} {l : List (Int64 × String)}
    (h : l.Pairwise (fun a b => precedes a b = true)) (he : e ∉ l) :
    (place e l).Pairwise (fun a b => precedes a b = true) := by
  induction l with
  | nil => simp [place]
  | cons b rest ih =>
      obtain ⟨hb, hr⟩ := List.pairwise_cons.mp h
      rw [List.mem_cons, not_or] at he
      rw [place]
      split_ifs with heb
      · refine List.pairwise_cons.mpr ⟨fun c hc => ?_, h⟩
        rcases List.mem_cons.mp hc with rfl | hc
        · exact heb
        · exact precedes_trans heb (hb c hc)
      · refine List.pairwise_cons.mpr ⟨fun c hc => ?_, ih hr he.2⟩
        rcases mem_place.mp hc with rfl | hc
        · exact precedes_of_not_precedes heb he.1
        · exact hb c hc

lemma nodup_of_pairwise {l : List (Int64 × String)}
    (h : l.Pairwise (fun a b => precedes a b = true)) : l.Nodup := by
  refine List.Pairwise.imp (fun {a b} hab => ?_) h
  rintro rfl
  exact not_precedes_self a hab

/-! ### Indexes in step -/

/-- The list of pairs is in increasing order and holds exactly the members with their scores. -/
structure InStep (s : ScoredSet) : Prop where
  sorted : s.ordered.Pairwise (fun a b => precedes a b = true)
  mem_iff : ∀ x m, (x, m) ∈ s.ordered ↔ s.score? m = some x

lemma InStep.nodup {s : ScoredSet} (h : s.InStep) : s.ordered.Nodup := nodup_of_pairwise h.sorted

lemma inStep_empty : empty.InStep := ⟨List.Pairwise.nil, fun x m => by simp [empty, score?]⟩

@[simp] lemma score?_empty (m : String) : empty.score? m = none := rfl

/-- Adding a member scores it and leaves the others alone. -/
lemma score?_add (s : ScoredSet) (m m' : String) (x : Int64) :
    (s.add m x).score? m' = if m' = m then some x else s.score? m' :=
  SortedMap.get?_insert s.scores m m' x

/-- Removing a member leaves the others alone. -/
lemma score?_remove (s : ScoredSet) (m m' : String) :
    (s.remove m).score? m' = if m' = m then none else s.score? m' := by
  unfold remove
  split
  · exact SortedMap.get?_erase s.scores m m'
  · rename_i hnone
    split_ifs with h
    · rw [h]
      exact hnone
    · rfl

/-- Popping takes the first pair out of the list, and its member out of the scores. -/
lemma popMin_eq_some {s rest : ScoredSet} {m : String} {x : Int64}
    (h : s.popMin = some ((m, x), rest)) :
    s.ordered = (x, m) :: rest.ordered ∧ rest.scores = s.scores.erase m := by
  unfold popMin at h
  split at h
  · simp at h
  · rename_i hcons
    simp only [Option.some.injEq, Prod.mk.injEq] at h
    obtain ⟨⟨rfl, rfl⟩, rfl⟩ := h
    exact ⟨hcons, rfl⟩

/-- Popping takes out one member and leaves the others alone. -/
lemma score?_popMin {s rest : ScoredSet} {m : String} {x : Int64}
    (h : s.popMin = some ((m, x), rest)) (m' : String) :
    rest.score? m' = if m' = m then none else s.score? m' := by
  rw [score?, (popMin_eq_some h).2]
  exact SortedMap.get?_erase s.scores m m'

/-- After a member has been added, the entries are its own and such as were there. -/
lemma mem_of_mem_add {s : ScoredSet} {m : String} {x : Int64} {e : Int64 × String}
    (h : e ∈ (s.add m x).ordered) : e = (x, m) ∨ e ∈ s.ordered := by
  refine (mem_place.mp h).imp_right fun hrest => ?_
  split at hrest
  · exact List.mem_of_mem_erase hrest
  · exact hrest

lemma mem_of_mem_remove {s : ScoredSet} {m : String} {e : Int64 × String}
    (h : e ∈ (s.remove m).ordered) : e ∈ s.ordered := by
  unfold remove at h
  split at h
  · exact List.mem_of_mem_erase h
  · exact h

lemma size_popMin {s rest : ScoredSet} {entry : String × Int64}
    (h : s.popMin = some (entry, rest)) : rest.size + 1 = s.size := by
  rw [size, size, (popMin_eq_some h).1, List.length_cons]

lemma size_remove_le (s : ScoredSet) (m : String) : (s.remove m).size ≤ s.size := by
  unfold remove
  split
  · exact List.length_erase_le
  · exact le_rfl

/-- Dropping the entry of a member leaves the entries of the others. -/
lemma InStep.mem_erase {s : ScoredSet} (h : s.InStep) {m m' : String} {x x' : Int64}
    (hm : s.score? m = some x) :
    (x', m') ∈ s.ordered.erase (x, m) ↔ m' ≠ m ∧ s.score? m' = some x' := by
  rw [h.nodup.mem_erase_iff, h.mem_iff]
  constructor
  · rintro ⟨hne, hx'⟩
    refine ⟨fun heq => hne ?_, hx'⟩
    subst heq
    rw [Option.some.inj (hx'.symm.trans hm)]
  · rintro ⟨hne, hx'⟩
    exact ⟨fun heq => hne (Prod.ext_iff.mp heq).2, hx'⟩

/-- Removing what is not there changes nothing. -/
lemma remove_eq_self {s : ScoredSet} {m : String} (h : s.score? m = none) : s.remove m = s := by
  unfold remove
  rw [show s.scores.get? m = none from h]

lemma InStep.remove {s : ScoredSet} (h : s.InStep) (m : String) : (s.remove m).InStep := by
  cases hm : s.score? m with
  | none => rwa [remove_eq_self hm]
  | some x =>
      have hrem : s.remove m = ⟨s.scores.erase m, s.ordered.erase (x, m)⟩ := by
        unfold ScoredSet.remove
        rw [show s.scores.get? m = some x from hm]
      refine ⟨?_, fun x' m' => ?_⟩
      · rw [hrem]
        exact h.sorted.sublist List.erase_sublist
      · rw [score?_remove, hrem, h.mem_erase hm]
        by_cases hmm : m' = m <;> simp [hmm]

lemma InStep.add {s : ScoredSet} (h : s.InStep) (m : String) (x : Int64) : (s.add m x).InStep := by
  -- adding is removing what is there and placing the new entry
  have hadd : (s.add m x).ordered = place (x, m) (s.remove m).ordered := by
    unfold ScoredSet.add ScoredSet.remove
    split <;> rfl
  have hrem := h.remove m
  have hnew : (x, m) ∉ (s.remove m).ordered := by
    rw [hrem.mem_iff, score?_remove, if_pos rfl]
    simp
  refine ⟨?_, fun x' m' => ?_⟩
  · rw [hadd]
    exact pairwise_place hrem.sorted hnew
  · rw [hadd, mem_place, hrem.mem_iff, score?_remove, score?_add]
    by_cases hmm : m' = m
    · simp [hmm, eq_comm]
    · simp [hmm]

/-! ### Popping -/

lemma popMin_eq_none_iff {s : ScoredSet} (h : s.InStep) :
    s.popMin = none ↔ ∀ m, s.score? m = none := by
  unfold popMin
  split
  · rename_i hnil
    refine ⟨fun _ m => ?_, fun _ => rfl⟩
    rw [Option.eq_none_iff_forall_ne_some]
    intro x hx
    have := (h.mem_iff x m).mpr hx
    simp [hnil] at this
  · rename_i x m rest hcons
    have hx := (h.mem_iff x m).mp (by simp [hcons])
    refine ⟨fun hnone => by simp at hnone, fun hall => ?_⟩
    rw [hall m] at hx
    simp at hx

/-- The popped member has its score, and all other members come after it. -/
lemma InStep.popMin_least {s rest : ScoredSet} (h : s.InStep) {m : String} {x : Int64}
    (hpop : s.popMin = some ((m, x), rest)) :
    s.score? m = some x ∧
      ∀ m' x', s.score? m' = some x' → m' ≠ m → precedes (x, m) (x', m') = true := by
  obtain ⟨hcons, -⟩ := popMin_eq_some hpop
  refine ⟨(h.mem_iff x m).mp (by simp [hcons]), fun m' x' hx' hne => ?_⟩
  have hsorted := h.sorted
  rw [hcons] at hsorted
  have hmem := (h.mem_iff x' m').mpr hx'
  rw [hcons, List.mem_cons] at hmem
  rcases hmem with heq | hmem
  · exact absurd (Prod.ext_iff.mp heq).2 hne
  · exact (List.pairwise_cons.mp hsorted).1 _ hmem

/-- Popping takes out the member that it pops. -/
lemma InStep.eq_remove_of_popMin {s rest : ScoredSet} (h : s.InStep) {m : String} {x : Int64}
    (hpop : s.popMin = some ((m, x), rest)) : rest = s.remove m := by
  have hscore : s.scores.get? m = some x := (h.popMin_least hpop).1
  obtain ⟨hcons, hscores⟩ := popMin_eq_some hpop
  simp only [ScoredSet.remove, hscore, hcons, List.erase_cons_head, ← hscores]

lemma InStep.popMin {s rest : ScoredSet} (h : s.InStep) {m : String} {x : Int64}
    (hpop : s.popMin = some ((m, x), rest)) : rest.InStep := by
  rw [h.eq_remove_of_popMin hpop]
  exact h.remove m

/-- Adding the popped member again with its score gives the set as it was. -/
lemma InStep.add_of_popMin {s rest : ScoredSet} (h : s.InStep) {m : String} {x : Int64}
    (hpop : s.popMin = some ((m, x), rest)) : rest.add m x = s := by
  obtain ⟨hscore, hleast⟩ := h.popMin_least hpop
  have hnone : rest.scores.get? m = none := by
    have hself := score?_popMin hpop m
    rwa [if_pos rfl] at hself
  have hscores : rest.scores.insert m x = s.scores := by
    refine SortedMap.ext_get? fun m' => ?_
    have hother : rest.scores.get? m' = if m' = m then none else s.scores.get? m' :=
      score?_popMin hpop m'
    rw [SortedMap.get?_insert, hother]
    split_ifs with hm
    · rw [hm]
      exact hscore.symm
    · rfl
  have hsorted := h.sorted
  have hplace : place (x, m) rest.ordered = s.ordered := by
    rw [(popMin_eq_some hpop).1] at hsorted ⊢
    cases hrest : rest.ordered with
    | nil => rfl
    | cons e l =>
        rw [hrest, List.pairwise_cons] at hsorted
        rw [place, if_pos (hsorted.1 e List.mem_cons_self)]
  simp only [ScoredSet.add, hnone, hscores, hplace]

/-! ### Members under a bound -/

/-- In increasing order, what stands before the first score at a bound is what lies under it. -/
lemma mem_takeWhile_iff {l : List (Int64 × String)}
    (h : l.Pairwise (fun a b => precedes a b = true)) {bound : Int64} {e : Int64 × String} :
    e ∈ l.takeWhile (fun e => e.1 < bound) ↔ e ∈ l ∧ e.1 < bound := by
  induction l with
  | nil => simp
  | cons a rest ih =>
      obtain ⟨ha, hr⟩ := List.pairwise_cons.mp h
      by_cases hlt : a.1 < bound
      · rw [List.takeWhile_cons_of_pos (by simpa using hlt), List.mem_cons, List.mem_cons, ih hr]
        constructor
        · rintro (rfl | ⟨hm, he⟩)
          · exact ⟨Or.inl rfl, hlt⟩
          · exact ⟨Or.inr hm, he⟩
        · rintro ⟨rfl | hm, he⟩
          · exact Or.inl rfl
          · exact Or.inr ⟨hm, he⟩
      · rw [List.takeWhile_cons_of_neg (by simpa using hlt)]
        constructor
        · intro hm
          simp at hm
        · rintro ⟨hm, he⟩
          exfalso
          rcases List.mem_cons.mp hm with rfl | hm
          · exact hlt he
          · rcases precedes_iff.mp (ha e hm) with hae | ⟨hae, -⟩
            · exact hlt (Int64.lt_trans hae he)
            · exact hlt (hae ▸ he)

lemma mem_of_mem_below {s : ScoredSet} {bound : Int64} {m : String} (h : m ∈ s.below bound) :
    ∃ x, (x, m) ∈ s.ordered := by
  obtain ⟨⟨x, m⟩, he, rfl⟩ := List.mem_map.mp h
  exact ⟨x, (List.takeWhile_prefix _).subset he⟩

lemma InStep.mem_below_iff {s : ScoredSet} (h : s.InStep) {bound : Int64} {m : String} :
    m ∈ s.below bound ↔ ∃ x, s.score? m = some x ∧ x < bound := by
  rw [below, List.mem_map]
  constructor
  · rintro ⟨⟨x, m'⟩, he, rfl⟩
    obtain ⟨hm, hlt⟩ := (mem_takeWhile_iff h.sorted).mp he
    exact ⟨x, (h.mem_iff x m').mp hm, hlt⟩
  · rintro ⟨x, hx, hlt⟩
    exact ⟨(x, m), (mem_takeWhile_iff h.sorted).mpr ⟨(h.mem_iff x m).mpr hx, hlt⟩, rfl⟩

/-- A member stands under a bound once. -/
lemma InStep.nodup_below {s : ScoredSet} (h : s.InStep) (bound : Int64) :
    (s.below bound).Nodup := by
  have hmem : ∀ e ∈ s.ordered.takeWhile (fun e => e.1 < bound), s.score? e.2 = some e.1 :=
    fun e he => (h.mem_iff e.1 e.2).mp ((mem_takeWhile_iff h.sorted).mp he).1
  refine List.Nodup.map_on (fun a ha b hb hab => ?_)
    (h.nodup.sublist (List.takeWhile_sublist _))
  have := (hmem a ha).symm.trans (hab ▸ hmem b hb)
  exact Prod.ext (Option.some.inj this) hab

lemma length_below_le (s : ScoredSet) (bound : Int64) : (s.below bound).length ≤ s.size := by
  rw [below, List.length_map, size]
  exact (List.takeWhile_sublist _).length_le

end LeaseQueue.ScoredSet
