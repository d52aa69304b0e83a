/-
Layouts of different names over one keyspace.

* `Layout.Plain`: ids without a colon; with such ids no two layouts have a key in common
  (`IsTaskKey.eq`, `IsScoredKey.eq`, `IsSetKey.eq`), whatever their names;
* `WriteOp.Within`, `Request.Within`: writes and requests under keys of one layout, about ids in a
  set;
* `Keyspace.Within`, `Within.answer`: a layout has ids in a set only, and so have the answers and
  what such requests leave;
* `Keyspace.Agrees`, `Agrees.answer`: keyspaces with the same data under the keys of a layout answer
  its requests alike;
* `Keyspace.agrees_answer_of_ne`: they leave the data of every other layout alone.
-/
import LeaseQueue.Proofs.Keyspace.View

namespace LeaseQueue

/-! ### Keys -/

/-- Where the parts after the last colons have none, equal texts have equal parts. -/
lemma append_cons_inj_of_notMem {α : Type} {c : α} {x y u v : List α} (hu : c ∉ u) (hv : c ∉ v) :
    x ++ c :: u = y ++ c :: v ↔ x = y ∧ u = v := by
  constructor
  · intro h
    obtain ⟨_ | ⟨_, w⟩, rfl, hw⟩ | ⟨_ | ⟨_, w⟩, rfl, hw⟩ := List.append_eq_append_iff.mp h
    · simp_all
    · obtain ⟨rfl, rfl⟩ := List.cons.inj hw
      simp at hu
    · simp_all
    · obtain ⟨rfl, rfl⟩ := List.cons.inj hw
      simp at hv
  · rintro ⟨rfl, rfl⟩
    rfl

namespace Layout

/-- An id without a colon. -/
def Plain (id : String) : Prop := ':' ∉ id.toList

instance (id : String) : Decidable (Plain id) := inferInstanceAs (Decidable (¬ _))

lemma append_colon_inj {a b u v : String} (hu : Plain u) (hv : Plain v) :
    a ++ ":" ++ u = b ++ ":" ++ v ↔ a = b ∧ u = v := by
  have htoList : ∀ a u : String, (a ++ ":" ++ u).toList = a.toList ++ ':' :: u.toList := by
    intro a u
    rw [String.toList_append, String.toList_append, List.append_assoc]
    rfl
  rw [← String.toList_inj, htoList, htoList, append_cons_inj_of_notMem hu hv, String.toList_inj,
    String.toList_inj]

/-- The key of a hash of a plain id. -/
def IsTaskKey (l : Layout) (key : String) : Prop := ∃ id, Plain id ∧ key = l.taskKey id

/-- The key of the queue or of the leases. -/
def IsScoredKey (l : Layout) (key : String) : Prop := key = l.pendingKey ∨ key = l.inProgressKey

/-- The key of a set for listing. -/
def IsSetKey (l : Layout) (key : String) : Prop := ∃ status, key = l.indexKey status

variable {l l' : Layout} {key : String}

/-- No two layouts keep a task of a plain id under one key. -/
lemma IsTaskKey.eq (h : l.IsTaskKey key) (h' : l'.IsTaskKey key) : l = l' := by
  obtain ⟨id, hid, rfl⟩ := h
  obtain ⟨id', hid', heq⟩ := h'
  have hkey : ∀ (l : Layout) (id : String), l.taskKey id = l.keyspaceName ++ ":task" ++ ":" ++ id :=
    fun l id => by rw [taskKey_eq, @String.append_assoc _ ":task" ":"]; rfl
  rw [hkey, hkey, append_colon_inj hid hid', String.append_left_inj] at heq
  exact congrArg mk heq.1

/-- No two layouts have a scored set in common. -/
lemma IsScoredKey.eq (h : l.IsScoredKey key) (h' : l'.IsScoredKey key) : l = l' := by
  have hkey : ∀ {l : Layout}, l.IsScoredKey key →
      ∃ last ∈ ["pending", "in_progress"], key = l.keyspaceName ++ ":" ++ last := by
    rintro l (rfl | rfl)
    · exact ⟨"pending", by simp, by rw [String.append_assoc]; rfl⟩
    · exact ⟨"in_progress", by simp, by rw [String.append_assoc]; rfl⟩
  have hplain : ∀ last ∈ ["pending", "in_progress"], Plain last := by decide
  obtain ⟨last, hlast, rfl⟩ := hkey h
  obtain ⟨last', hlast', heq⟩ := hkey h'
  rw [append_colon_inj (hplain last hlast) (hplain last' hlast')] at heq
  exact congrArg mk heq.1

/-- No two layouts have a set in common. -/
lemma IsSetKey.eq (h : l.IsSetKey key) (h' : l'.IsSetKey key) : l = l' := by
  obtain ⟨status, rfl⟩ := h
  obtain ⟨status', heq⟩ := h'
  have hall : ∀ l : Layout, l.allKey = l.keyspaceName ++ ":" ++ "all" :=
    fun l => by rw [String.append_assoc]; rfl
  have hstatus : ∀ (l : Layout) (s : Status),
      l.statusKey s = l.keyspaceName ++ ":status" ++ ":" ++ s.lowerName :=
    fun l s => by rw [statusKey_eq, @String.append_assoc _ ":status" ":"]; rfl
  have hplain : ∀ s : Status, Plain s.lowerName := by
    intro s
    cases s <;> decide
  have hne : ∀ s : Status, "all" ≠ s.lowerName := by
    intro s
    cases s <;> decide
  cases status with
  | none =>
      cases status' with
      | none =>
          rw [indexKey, indexKey, hall, hall, append_colon_inj (by decide) (by decide)] at heq
          exact congrArg mk heq.1
      | some s =>
          rw [indexKey, indexKey, hall, hstatus, append_colon_inj (by decide) (hplain s)] at heq
          exact absurd heq.2 (hne s)
  | some s =>
      cases status' with
      | none =>
          rw [indexKey, indexKey, hall, hstatus, append_colon_inj (hplain s) (by decide)] at heq
          exact absurd heq.2.symm (hne s)
      | some s' =>
          rw [indexKey, indexKey, hstatus, hstatus, append_colon_inj (hplain s) (hplain s'),
            String.append_left_inj] at heq
          exact congrArg mk heq.1

end Layout

/-! ### Requests of a layout -/

/-- A write under a key of a layout, about ids in a set only. -/
def WriteOp.Within (l : Layout) (S : Set String) : WriteOp → Prop
  | hashSet key fields => ∃ id ∈ S, key = l.taskKey id ∧ ∀ f ∈ fields, f.1 = "id" → f.2 = id
  | scoredAdd key member _ => l.IsScoredKey key ∧ member ∈ S
  | scoredRemove key _ => l.IsScoredKey key
  | setAdd key member => l.IsSetKey key ∧ member ∈ S
  | setRemove key _ => l.IsSetKey key

/-- A request under keys of a layout, that writes about ids in a set only. -/
def Request.Within (l : Layout) (S : Set String) : Request → Prop
  | readHash key => l.IsTaskKey key
  | popMin key => l.IsScoredKey key
  | below key _ => l.IsScoredKey key
  | members key => l.IsSetKey key
  | commit batch => (∀ g ∈ batch.guards, l.IsTaskKey g.key) ∧ ∀ op ∈ batch.ops, op.Within l S

/-- An answer that lists ids in a set only. -/
def Reply.Within (S : Set String) : Reply → Prop
  | popped entry => ∀ e ∈ entry, e.1 ∈ S
  | ids l => ∀ id ∈ l, id ∈ S
  | fields _ | committed _ => True

namespace Keyspace

variable {l l' : Layout} {S : Set String} {ks ks' ks₀ : Keyspace} {op : WriteOp} {q : Request}

/-! ### The ids of a layout -/

/-- A layout has ids in a set only, and a hash no other id than its own. -/
structure Within (l : Layout) (S : Set String) (ks : Keyspace) : Prop where
  task : ∀ {id}, ks.hash (l.taskKey id) ≠ .empty → id ∈ S
  named : ∀ {id id'}, (ks.hash (l.taskKey id)).get? "id" = some id' → id' = id
  scored : ∀ {key e}, l.IsScoredKey key → e ∈ (ks.scoredSet key).ordered → e.2 ∈ S
  listed : ∀ {key id}, l.IsSetKey key → id ∈ ks.members key → id ∈ S

namespace Within

lemma empty (l : Layout) : Within l ∅ .empty where
  task h := (h rfl).elim
  named h := by cases h
  scored _ h := by cases h
  listed _ h := by cases h

lemma mono (h : Within l S ks) {S' : Set String} (hS : S ⊆ S') : Within l S' ks :=
  ⟨fun hid => hS (h.task hid), h.named, fun hkey he => hS (h.scored hkey he),
    fun hkey hid => hS (h.listed hkey hid)⟩

/-- A write about ids in the set leaves a layout with such ids. -/
lemma apply (h : Within l S ks) (hop : op.Within l S) : Within l S (ks.apply op) where
  task {id} hid := by
    rw [hash_apply] at hid
    cases op with
    | hashSet key fields =>
        obtain ⟨id', hid', rfl, -⟩ := hop
        dsimp only at hid
        split_ifs at hid with heq
        · exact l.taskKey_inj.mp heq ▸ hid'
        · exact h.task hid
    | _ => exact h.task hid
  named {id name} hname := by
    rw [hash_apply] at hname
    cases op with
    | hashSet key fields =>
        obtain ⟨id', -, rfl, hfields⟩ := hop
        dsimp only at hname
        split_ifs at hname with heq
        · rw [SortedMap.get?_insertAll, Option.or_eq_some_iff] at hname
          obtain hname | ⟨-, hname⟩ := hname
          · rw [l.taskKey_inj.mp heq]
            exact hfields _ (List.mem_reverse.mp (SortedMap.mem_of_lookup_eq_some hname)) rfl
          · exact h.named hname
        · exact h.named hname
    | _ => exact h.named hname
  scored {key e} hkey he := by
    rw [scoredSet_apply] at he
    cases op with
    | scoredAdd key' m x =>
        dsimp only at he
        split_ifs at he
        · obtain rfl | he := ScoredSet.mem_of_mem_add he
          · exact hop.2
          · exact h.scored hkey he
        · exact h.scored hkey he
    | scoredRemove key' m =>
        dsimp only at he
        split_ifs at he
        · exact h.scored hkey (ScoredSet.mem_of_mem_remove he)
        · exact h.scored hkey he
    | _ => exact h.scored hkey he
  listed {key id} hkey hid := by
    rw [mem_members_apply] at hid
    cases op with
    | setAdd key' m =>
        obtain ⟨-, rfl⟩ | hid := hid
        · exact hop.2
        · exact h.listed hkey hid
    | setRemove key' m => exact h.listed hkey hid.1
    | _ => exact h.listed hkey hid

lemma foldl (h : Within l S ks) {ops : List WriteOp} (hops : ∀ op ∈ ops, op.Within l S) :
    Within l S (ops.foldl Keyspace.apply ks) := by
  induction ops generalizing ks with
  | nil => exact h
  | cons op ops ih =>
      exact ih (h.apply (hops op List.mem_cons_self)) fun op' hop' =>
        hops op' (List.mem_cons_of_mem _ hop')

/-- Popping gives an id in the set. -/
lemma popMin (h : Within l S ks) {key : String} (hkey : l.IsScoredKey key) :
    (∀ e ∈ (ks.popMin key).1, e.1 ∈ S) ∧ Within l S (ks.popMin key).2 := by
  rcases ks.popMin_cases key with ⟨-, heq⟩ | ⟨⟨m, x⟩, rest, hpop, hentry, hrest⟩
  · rw [heq]
    exact ⟨nofun, h⟩
  · obtain ⟨hordered, -⟩ := ScoredSet.popMin_eq_some hpop
    rw [hentry]
    refine ⟨?_, fun hid => ?_, fun hname => ?_, fun {key'} {e} hkey' he => ?_, fun hkey' hid => ?_⟩
    · rintro _ ⟨⟩
      exact h.scored hkey (hordered ▸ List.mem_cons_self)
    · exact h.task (hash_popMin ks key _ ▸ hid)
    · exact h.named (hash_popMin ks key _ ▸ hname)
    · by_cases heq : key' = key
      · subst heq
        rw [hrest] at he
        exact h.scored hkey (hordered ▸ List.mem_cons_of_mem _ he)
      · exact h.scored hkey' (scoredSet_popMin_of_ne ks heq ▸ he)
    · exact h.listed hkey' (members_popMin ks key _ ▸ hid)

/-- A request about ids in the set gives such ids, and leaves a layout with such ids. -/
lemma answer (h : Within l S ks) (hq : q.Within l S) :
    (ks.answer q).1.Within S ∧ Within l S (ks.answer q).2 := by
  cases q with
  | readHash key => exact ⟨trivial, h⟩
  | popMin key => exact h.popMin hq
  | below key bound =>
      refine ⟨fun id hid => ?_, h⟩
      obtain ⟨x, he⟩ := ScoredSet.mem_of_mem_below hid
      exact h.scored hq he
  | members key => exact ⟨fun id hid => h.listed hq hid, h⟩
  | commit batch =>
      refine ⟨trivial, ?_⟩
      rw [Keyspace.answer, commit_eq]
      split_ifs
      · exact h.foldl hq.2
      · exact h

end Within

/-! ### Agreement -/

/-- Two keyspaces have the same data under the keys of a layout. -/
structure Agrees (l : Layout) (ks ks₀ : Keyspace) : Prop where
  hash : ∀ {key}, l.IsTaskKey key → ks.hash key = ks₀.hash key
  scored : ∀ {key}, l.IsScoredKey key → ks.scoredSet key = ks₀.scoredSet key
  listed : ∀ {key}, l.IsSetKey key → ∀ m, m ∈ ks.members key ↔ m ∈ ks₀.members key

lemma Agrees.refl (l : Layout) (ks : Keyspace) : Agrees l ks ks :=
  ⟨fun _ => rfl, fun _ => rfl, fun _ _ => Iff.rfl⟩

lemma Agrees.trans (h : Agrees l ks ks') (h' : Agrees l ks' ks₀) : Agrees l ks ks₀ :=
  ⟨fun hkey => (h.hash hkey).trans (h'.hash hkey),
    fun hkey => (h.scored hkey).trans (h'.scored hkey),
    fun hkey m => (h.listed hkey m).trans (h'.listed hkey m)⟩

lemma Agrees.members (h : Agrees l ks ks₀) {key : String} (hkey : l.IsSetKey key) :
    ks.members key = ks₀.members key := by
  have hset : ks.sets.getD key .empty = ks₀.sets.getD key .empty := by
    refine SortedMap.ext_get? fun m => ?_
    have hm := h.listed hkey m
    rw [mem_members_iff, mem_members_iff] at hm
    cases hget : (ks.sets.getD key .empty).get? m <;>
      cases hget₀ : (ks₀.sets.getD key .empty).get? m <;> simp_all
  rw [Keyspace.members, Keyspace.members, hset]

/-- The same write keeps keyspaces in agreement. -/
lemma Agrees.apply (h : Agrees l ks ks₀) (op : WriteOp) :
    Agrees l (ks.apply op) (ks₀.apply op) where
  hash hkey := by rw [hash_apply, hash_apply, h.hash hkey]
  scored hkey := by rw [scoredSet_apply, scoredSet_apply, h.scored hkey]
  listed hkey m := by
    rw [mem_members_apply, mem_members_apply]
    simp only [h.listed hkey]

lemma Agrees.foldl (h : Agrees l ks ks₀) (ops : List WriteOp) :
    Agrees l (ops.foldl Keyspace.apply ks) (ops.foldl Keyspace.apply ks₀) := by
  induction ops generalizing ks ks₀ with
  | nil => exact h
  | cons op ops ih => exact ih (h.apply op)

/-- Keyspaces that agree on a layout answer its requests alike, and agree on it afterwards. -/
theorem Agrees.answer (h : Agrees l ks ks₀) (hq : q.Within l S) :
    (ks.answer q).1 = (ks₀.answer q).1 ∧ Agrees l (ks.answer q).2 (ks₀.answer q).2 := by
  cases q with
  | readHash key => exact ⟨congrArg Reply.fields (h.hash hq), h⟩
  | popMin key =>
      change Reply.popped (ks.popMin key).1 = Reply.popped (ks₀.popMin key).1 ∧
        Agrees l (ks.popMin key).2 (ks₀.popMin key).2
      rw [popMin, popMin, h.scored hq]
      cases (ks₀.scoredSet key).popMin with
      | none => exact ⟨rfl, h⟩
      | some p =>
          refine ⟨rfl, h.hash, fun {key'} hkey => ?_, h.listed⟩
          change (ks.scored.insert key p.2).getD key' .empty
            = (ks₀.scored.insert key p.2).getD key' .empty
          rw [SortedMap.getD_insert, SortedMap.getD_insert]
          exact if_congr Iff.rfl rfl (h.scored hkey)
  | below key bound =>
      exact ⟨congrArg (fun s : ScoredSet => Reply.ids (s.below bound)) (h.scored hq), h⟩
  | members key => exact ⟨congrArg Reply.ids (h.members hq), h⟩
  | commit batch =>
      have hguards : batch.guards.all ks.holds = batch.guards.all ks₀.holds := by
        rw [Bool.eq_iff_iff, List.all_eq_true, List.all_eq_true]
        exact forall₂_congr fun g hg => by rw [holds, holds, h.hash (hq.1 g hg)]
      rw [Keyspace.answer, Keyspace.answer, commit_eq, commit_eq, hguards]
      split_ifs
      · exact ⟨rfl, h.foldl batch.ops⟩
      · exact ⟨rfl, h⟩

/-! ### Other layouts -/

section Others

variable (hS : ∀ id ∈ S, Layout.Plain id) (hne : l' ≠ l)
include hS hne

/-- A write under a key of one layout leaves the others alone. -/
lemma agrees_apply_of_ne (hop : op.Within l S) : Agrees l' (ks.apply op) ks where
  hash {key} hkey := by
    rw [hash_apply]
    cases op with
    | hashSet key' fields =>
        obtain ⟨id, hid, rfl, -⟩ := hop
        exact if_neg fun heq : key = l.taskKey id => hne (hkey.eq ⟨id, hS id hid, heq⟩)
    | _ => rfl
  scored {key} hkey := by
    rw [scoredSet_apply]
    cases op with
    | scoredAdd key' m x => exact if_neg fun heq : key = key' => hne (hkey.eq (heq ▸ hop.1))
    | scoredRemove key' m => exact if_neg fun heq : key = key' => hne (hkey.eq (heq ▸ hop))
    | _ => rfl
  listed {key} hkey m := by
    rw [mem_members_apply]
    cases op with
    | setAdd key' m' =>
        have hkey' : key ≠ key' := fun heq => hne (hkey.eq (heq ▸ hop.1))
        simp [hkey']
    | setRemove key' m' =>
        have hkey' : key ≠ key' := fun heq => hne (hkey.eq (heq ▸ hop))
        simp [hkey']
    | _ => rfl

lemma agrees_foldl_of_ne {ops : List WriteOp} (hops : ∀ op ∈ ops, op.Within l S) (ks : Keyspace) :
    Agrees l' (ops.foldl Keyspace.apply ks) ks := by
  induction ops generalizing ks with
  | nil => exact .refl l' ks
  | cons op ops ih =>
      exact (ih (fun op' hop' => hops op' (List.mem_cons_of_mem _ hop')) _).trans
        (agrees_apply_of_ne hS hne (hops op List.mem_cons_self))

/-- A request of one layout leaves the others alone. -/
theorem agrees_answer_of_ne (hq : q.Within l S) (ks : Keyspace) :
    Agrees l' (ks.answer q).2 ks := by
  cases q with
  | popMin key =>
      refine ⟨fun _ => hash_popMin ks key _, fun {key'} hkey => ?_, fun hkey m => ?_⟩
      · exact scoredSet_popMin_of_ne ks fun heq => hne (hkey.eq (heq ▸ hq))
      · exact Iff.of_eq (congrArg (m ∈ ·) (members_popMin ks key _))
  | commit batch =>
      rw [Keyspace.answer, commit_eq]
      split_ifs
      · exact agrees_foldl_of_ne hS hne hq.2 ks
      · exact .refl l' ks
  | _ => exact .refl l' ks

end Others

end Keyspace

end LeaseQueue
