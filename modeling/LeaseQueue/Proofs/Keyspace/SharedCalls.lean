/-
Calls of one layout on a keyspace that other layouts share.

* `Stage.Within`: a running call asks for plain ids only, and carries ids in a set to write about;
* `Within.request`, `Within.resume`: so it makes requests under keys of its layout, and every answer
  leaves it so;
* `Stage.Alike`, `Alike.iterate`: on keyspaces that agree on its layout a call goes through the same
  stages, and it leaves every other layout alone;
* `Stage.run_start_of_agrees`: it gives the same result.
-/
import LeaseQueue.Proofs.Keyspace.Cost
import LeaseQueue.Proofs.Keyspace.Namespaces
import LeaseQueue.Proofs.Record.Reading

namespace LeaseQueue

/-! ### Reading a hash -/

namespace Keyspace.Within

variable {l : Layout} {S : Set String} {ks : Keyspace} {id : String}

/-- A task that is read has the id that it is read under, and that is in the set. -/
lemma of_loaded (h : Within l S ks) {t : Task}
    (ht : Stage.loaded (l.taskKey id) (.ok (.fields (ks.hash (l.taskKey id)))) = .ok (some t)) :
    t.id = id ∧ id ∈ S := by
  change Layout.decode? (l.taskKey id) (ks.hash (l.taskKey id)) = _ at ht
  have hne : ks.hash (l.taskKey id) ≠ .empty := fun heq => by
    rw [heq, Layout.decode?_empty] at ht
    cases ht
  rw [Layout.decode?, if_neg (SortedMap.isEmpty_iff.not.mpr hne)] at ht
  cases hdecode : Layout.decode (l.taskKey id) (ks.hash (l.taskKey id)) with
  | error e =>
      rw [hdecode] at ht
      cases ht
  | ok u =>
      rw [hdecode] at ht
      cases ht
      exact ⟨h.named (Layout.get?_id_of_decode hdecode), h.task hne⟩

/-- Under an id outside of the set there is no task to read. -/
lemma loaded_of_notMem (h : Within l S ks) (hid : id ∉ S) :
    Stage.loaded (l.taskKey id) (.ok (.fields (ks.hash (l.taskKey id)))) = .ok none := by
  change Layout.decode? (l.taskKey id) (ks.hash (l.taskKey id)) = _
  rw [by_contra fun hne => hid (h.task hne), Layout.decode?_empty]

end Keyspace.Within

/-! ### Batches of a layout -/

namespace Layout

variable {l : Layout} {S : Set String} {id : String} {read t : Task}

lemma isScoredKey_pendingKey (l : Layout) : l.IsScoredKey l.pendingKey := .inl rfl

lemma isScoredKey_inProgressKey (l : Layout) : l.IsScoredKey l.inProgressKey := .inr rfl

lemma isSetKey_statusKey (l : Layout) (s : Status) : l.IsSetKey (l.statusKey s) := ⟨some s, rfl⟩

/-- The fields that change do not name the task. -/
lemma within_mutableFields (l : Layout) (hid : id ∈ S) (t : Task) :
    WriteOp.Within l S (.hashSet (l.taskKey id) (mutableFields t)) :=
  ⟨id, hid, rfl, by simp [mutableFields]⟩

lemma within_insertion (ht : t.id ∈ S) : Request.Within l S (.commit (l.insertion t)) := by
  refine ⟨nofun, fun op hop => ?_⟩
  simp only [insertion, Batch.ofOps, List.mem_cons, List.not_mem_nil, or_false] at hop
  obtain rfl | rfl | rfl | rfl := hop
  · exact ⟨t.id, ht, rfl, by simp [fields, mutableFields]⟩
  · exact ⟨⟨none, rfl⟩, ht⟩
  · exact ⟨l.isSetKey_statusKey .pending, ht⟩
  · exact ⟨l.isScoredKey_pendingKey, ht⟩

lemma isTaskKey_guarded (hread : Plain read.id) :
    ∀ g ∈ (l.guarded read).guards, l.IsTaskKey g.key := by
  intro g hg
  simp only [guarded, List.mem_cons, List.not_mem_nil, or_false] at hg
  obtain rfl | rfl := hg <;> exact ⟨read.id, hread, rfl⟩

lemma within_transitionOps (ht : t.id ∈ S) (before : Status) :
    ∀ op ∈ l.transitionOps before t, op.Within l S := by
  intro op hop
  rw [transitionOps, List.mem_append, List.mem_cons] at hop
  obtain (rfl | hop) | hop := hop
  · exact l.within_mutableFields ht t
  · split_ifs at hop
    · cases hop
    · simp only [List.mem_cons, List.not_mem_nil, or_false] at hop
      obtain rfl | rfl := hop
      · exact l.isSetKey_statusKey before
      · exact ⟨l.isSetKey_statusKey t.status, ht⟩
  · split at hop
    all_goals
      simp only [List.mem_cons, List.not_mem_nil, or_false] at hop
      obtain rfl | rfl := hop
    · exact l.isScoredKey_inProgressKey
    · exact ⟨l.isScoredKey_pendingKey, ht⟩
    · exact l.isScoredKey_pendingKey
    · exact ⟨l.isScoredKey_inProgressKey, ht⟩
    all_goals first | exact l.isScoredKey_pendingKey | exact l.isScoredKey_inProgressKey

lemma within_transition (hread : Plain read.id) (ht : t.id ∈ S) :
    Request.Within l S (.commit (l.transition read t)) :=
  ⟨isTaskKey_guarded hread, within_transitionOps ht read.status⟩

lemma within_refresh (hread : Plain read.id) (hid : id ∈ S) :
    Request.Within l S (.commit (l.refresh id read t)) := by
  refine ⟨isTaskKey_guarded hread, fun op hop => ?_⟩
  obtain rfl | hop := List.mem_cons.mp hop
  · exact l.within_mutableFields hid t
  · split_ifs at hop
    · obtain rfl := List.mem_singleton.mp hop
      exact ⟨l.isScoredKey_inProgressKey, hid⟩
    · cases hop

lemma within_restore (hid : id ∈ S) (score : Int64) :
    Request.Within l S (.commit (l.restore id score)) := by
  refine ⟨nofun, fun op hop => ?_⟩
  obtain rfl := List.mem_singleton.mp hop
  exact ⟨l.isScoredKey_pendingKey, hid⟩

lemma within_forget (l : Layout) (S : Set String) (id : String) :
    Request.Within l S (.commit (l.forget id)) := by
  refine ⟨nofun, fun op hop => ?_⟩
  obtain rfl := List.mem_singleton.mp hop
  exact l.isScoredKey_inProgressKey

end Layout

/-! ### Stages of a layout -/

namespace Stage

/-- A running call asks for plain ids only, and carries ids in a set to write about. -/
def Within (S : Set String) : Stage → Prop
  | storing t => t.id ∈ S
  | claiming _ id _ _ | restoring id _ _ => id ∈ S
  | leasing _ id _ _ read claimed => id ∈ S ∧ read.id ∈ S ∧ claimed.id ∈ S
  | acking id _ _ _ | beating id _ | fetching id => Layout.Plain id
  | finishing id _ _ _ read done => Layout.Plain id ∧ read.id ∈ S ∧ done.id ∈ S
  | refreshing id _ read _ => id ∈ S ∧ read.id ∈ S
  | inspecting _ id rest _ | forgetting _ id rest _ | collecting _ id rest _ =>
    id ∈ S ∧ ∀ i ∈ rest, i ∈ S
  | expiring _ rest _ read expired => read.id ∈ S ∧ expired.id ∈ S ∧ ∀ i ∈ rest, i ∈ S
  | popping _ | scanning _ | indexing _ | finished _ => True

namespace Within

variable {l : Layout} {S : Set String} {ks : Keyspace} {stage : Stage} {q : Request}
  {now : Timestamp} {id : String} {rest : List String}

/-- A stage makes requests under keys of its layout. -/
lemma request (h : stage.Within S) (hS : ∀ id ∈ S, Layout.Plain id)
    (hq : stage.request l = some q) : q.Within l S := by
  cases stage with
  | storing t =>
      cases hq
      exact Layout.within_insertion h
  | popping worker =>
      cases hq
      exact l.isScoredKey_pendingKey
  | claiming worker id score tries =>
      cases hq
      exact ⟨id, hS id h, rfl⟩
  | leasing worker id score tries read claimed =>
      cases hq
      exact Layout.within_transition (hS _ h.2.1) h.2.2
  | restoring id score error =>
      cases hq
      exact Layout.within_restore h score
  | acking id success result tries =>
      cases hq
      exact ⟨id, h, rfl⟩
  | finishing id success result tries read done =>
      cases hq
      exact Layout.within_transition (hS _ h.2.1) h.2.2
  | beating id tries =>
      cases hq
      exact ⟨id, h, rfl⟩
  | refreshing id tries read touched =>
      cases hq
      exact Layout.within_refresh (hS _ h.2) h.1
  | scanning sweep =>
      cases hq
      exact l.isScoredKey_inProgressKey
  | inspecting sweep id rest report =>
      cases hq
      exact ⟨id, hS id h.1, rfl⟩
  | forgetting sweep id rest report =>
      cases hq
      exact l.within_forget S id
  | expiring sweep rest report read expired =>
      cases hq
      exact Layout.within_transition (hS _ h.1) h.2.1
  | fetching id =>
      cases hq
      exact ⟨id, h, rfl⟩
  | indexing status =>
      cases hq
      exact ⟨status, rfl⟩
  | collecting status id rest found =>
      cases hq
      exact ⟨id, hS id h.1, rfl⟩
  | finished r => cases hq

lemma nextOverdue (h : ∀ i ∈ rest, i ∈ S) (sweep : Sweep) (report : SweepReport) :
    (Stage.nextOverdue sweep report rest).Within S := by
  cases rest with
  | nil => trivial
  | cons id rest => exact List.forall_mem_cons.mp h

lemma nextListed (h : ∀ i ∈ rest, i ∈ S) (status : Option Status) (found : List Task) :
    (Stage.nextListed status found rest).Within S := by
  cases rest with
  | nil => trivial
  | cons id rest => exact List.forall_mem_cons.mp h

section Reads

variable {r : Except StoreError (Option Task)} (hr : ∀ t, r = .ok (some t) → t.id = id ∧ id ∈ S)
include hr

lemma claimRead (hid : id ∈ S) (worker : String) (score : Int64) (tries : Nat) :
    (Stage.claimRead now worker id score tries r).Within S := by
  unfold Stage.claimRead
  split
  · obtain ⟨rfl, -⟩ := hr _ rfl
    split_ifs
    · exact ⟨hid, hid, hid⟩
    · trivial
  · trivial
  · trivial
  · exact hid

lemma ackRead (hid : Layout.Plain id) (success : Bool) (result : Option String) (tries : Nat) :
    (Stage.ackRead now id success result tries r).Within S := by
  unfold Stage.ackRead
  split
  · obtain ⟨rfl, hmem⟩ := hr _ rfl
    split
    · rename_i hfinish
      exact ⟨hid, hmem, (Task.sameIdentity_finish hfinish).1 ▸ hmem⟩
    · trivial
  · trivial
  · trivial

lemma beatRead (tries : Nat) : (Stage.beatRead now id tries r).Within S := by
  unfold Stage.beatRead
  split
  · obtain ⟨rfl, hmem⟩ := hr _ rfl
    exact ⟨hmem, hmem⟩
  · trivial
  · trivial

lemma overdueRead (hid : id ∈ S) (hrest : ∀ i ∈ rest, i ∈ S) (sweep : Sweep)
    (report : SweepReport) : (Stage.overdueRead sweep id rest report r).Within S := by
  unfold Stage.overdueRead
  split
  · rename_i t
    obtain ⟨rfl, -⟩ := hr _ rfl
    split_ifs
    · exact ⟨hid, (t.sameIdentity_expire sweep.maxAttempts sweep.now).1 ▸ hid, hrest⟩
    · exact nextOverdue hrest sweep report
    · exact ⟨hid, hrest⟩
  · exact ⟨hid, hrest⟩
  · exact nextOverdue hrest sweep report

end Reads

lemma listedRead (hrest : ∀ i ∈ rest, i ∈ S) (status : Option Status) (found : List Task)
    (r : Except StoreError (Option Task)) : (Stage.listedRead status rest found r).Within S := by
  unfold Stage.listedRead
  split
  · split_ifs <;> exact nextListed hrest status _
  · exact nextListed hrest status found
  · trivial

/-- Every answer of a keyspace with ids in the set leaves a stage that carries such ids. -/
lemma resume (h : stage.Within S) (hS : ∀ id ∈ S, Layout.Plain id) (hks : ks.Within l S)
    (hq : stage.request l = some q) :
    (stage.resume l now (.ok (ks.answer q).1)).Within S := by
  have hreply := (hks.answer (h.request hS hq)).1
  cases stage with
  | storing t => trivial
  | popping worker =>
      cases hq
      change ∀ e ∈ (ks.popMin l.pendingKey).1, e.1 ∈ S at hreply
      change (Stage.resume l now (.ok (.popped (ks.popMin l.pendingKey).1)) _).Within S
      cases hentry : (ks.popMin l.pendingKey).1 with
      | none => trivial
      | some e => exact hreply e hentry
  | claiming worker id score tries =>
      cases hq
      exact claimRead (fun _ => hks.of_loaded) h worker score tries
  | leasing worker id score tries read claimed =>
      simp only [Stage.resume]
      split
      · trivial
      · cases tries <;> exact h.1
      · exact h.1
      · exact h.1
  | restoring id score error => trivial
  | acking id success result tries =>
      cases hq
      exact ackRead (fun _ => hks.of_loaded) h success result tries
  | finishing id success result tries read done =>
      simp only [Stage.resume]
      split
      · trivial
      · split_ifs
        · trivial
        · exact h.1
      all_goals trivial
  | beating id tries =>
      cases hq
      exact beatRead (fun _ => hks.of_loaded) tries
  | refreshing id tries read touched =>
      simp only [Stage.resume]
      split
      · trivial
      · split_ifs
        · trivial
        · exact hS id h.1
      all_goals trivial
  | scanning sweep =>
      cases hq
      exact nextOverdue hreply sweep .empty
  | inspecting sweep id rest report =>
      cases hq
      exact overdueRead (fun _ => hks.of_loaded) h.1 h.2 sweep report
  | forgetting sweep id rest report => exact nextOverdue h.2 sweep report
  | expiring sweep rest report read expired =>
      simp only [Stage.resume]
      split <;> exact nextOverdue h.2.2 sweep _
  | fetching id => trivial
  | indexing status =>
      cases hq
      exact nextListed hreply status []
  | collecting status id rest found => exact listedRead h.2 status found _
  | finished r => trivial

end Within

end Stage

/-! ### Calls on keyspaces that agree -/

/-- Stages have as much left on keyspaces that agree on their layout. -/
lemma Keyspace.Agrees.cost {l : Layout} {ks ks₀ : Keyspace} (h : Agrees l ks ks₀) (stage : Stage) :
    stage.cost l ks = stage.cost l ks₀ := by
  cases stage with
  | popping => simp only [Stage.cost, h.scored l.isScoredKey_pendingKey]
  | claiming => simp only [Stage.cost, h.scored l.isScoredKey_pendingKey]
  | leasing => simp only [Stage.cost, h.scored l.isScoredKey_pendingKey]
  | scanning => simp only [Stage.cost, h.scored l.isScoredKey_inProgressKey]
  | indexing status => simp only [Stage.cost, h.members ⟨status, rfl⟩]
  | _ => rfl

namespace Stage

/-- A call stands at the same stage on two keyspaces that agree on its layout, and has there ids in
a set only. -/
structure Alike (l : Layout) (S : Set String) (p p₀ : Stage × Keyspace) : Prop where
  stage_eq : p.1 = p₀.1
  agrees : Keyspace.Agrees l p.2 p₀.2
  stage : p₀.1.Within S
  keyspace : p₀.2.Within l S

namespace Alike

variable {l l' : Layout} {S : Set String} {p p₀ : Stage × Keyspace}

/-- One request leads to the same stage again, and leaves the other layouts alone. -/
lemma advance (h : Alike l S p p₀) (hS : ∀ id ∈ S, Layout.Plain id) (now : Timestamp) :
    Alike l S (Stage.advance l now p) (Stage.advance l now p₀) ∧
      ∀ l' ≠ l, Keyspace.Agrees l' (Stage.advance l now p).2 p.2 := by
  obtain ⟨stage, ks⟩ := p
  obtain ⟨stage₀, ks₀⟩ := p₀
  obtain ⟨rfl : stage = stage₀, hagrees, hstage, hks⟩ := h
  cases hq : stage.request l with
  | none =>
      obtain ⟨r, rfl⟩ := request_eq_none_iff.mp hq
      exact ⟨⟨rfl, hagrees, hstage, hks⟩, fun l' _ => .refl l' ks⟩
  | some q =>
      have hwithin := hstage.request hS hq
      obtain ⟨hanswer, hagrees'⟩ := hagrees.answer hwithin
      rw [advance_of_request hq, advance_of_request hq, hanswer]
      exact ⟨⟨rfl, hagrees', hstage.resume hS hks hq, (hks.answer hwithin).2⟩,
        fun l' hne => Keyspace.agrees_answer_of_ne hS hne hwithin ks⟩

/-- So does any number of requests. -/
lemma iterate (h : Alike l S p p₀) (hS : ∀ id ∈ S, Layout.Plain id) (now : Timestamp) (n : Nat) :
    Alike l S ((Stage.advance l now)^[n] p) ((Stage.advance l now)^[n] p₀) ∧
      ∀ l' ≠ l, Keyspace.Agrees l' ((Stage.advance l now)^[n] p).2 p.2 := by
  induction n generalizing p p₀ with
  | zero => exact ⟨h, fun l' _ => .refl l' p.2⟩
  | succ n ih =>
      obtain ⟨hone, hothers⟩ := h.advance hS now
      obtain ⟨hrest, hothers'⟩ := ih hone
      exact ⟨hrest, fun l' hne => (hothers' l' hne).trans (hothers l' hne)⟩

end Alike

/-- Without faults a call has the same result on two memories that agree on its layout, and leaves
them so, and the other layouts alone. -/
theorem run_start_of_agrees {l : Layout} {S : Set String} {m m₀ : MemoryKeyspace} {id : String}
    {now : Timestamp} {c : Call} (h : Keyspace.Agrees l m.keyspace m₀.keyspace)
    (hplan : m.plan = .none) (hplan₀ : m₀.plan = .none) (hS : ∀ id ∈ S, Layout.Plain id)
    (hstage : (start id now c).Within S) (hks : m₀.keyspace.Within l S) (clock : Timestamp) :
    ((start id now c).run l clock m).1 = ((start id now c).run l clock m₀).1 ∧
      Keyspace.Agrees l ((start id now c).run l clock m).2.keyspace
        ((start id now c).run l clock m₀).2.keyspace ∧
      ((start id now c).run l clock m₀).2.keyspace.Within l S ∧
      ∀ l' ≠ l, Keyspace.Agrees l' ((start id now c).run l clock m).2.keyspace m.keyspace := by
  obtain ⟨halike, hothers⟩ := @Alike.iterate l S (start id now c, m.keyspace)
    (start id now c, m₀.keyspace) ⟨rfl, h, hstage, hks⟩ hS clock
    ((start id now c).cost l m.keyspace)
  obtain ⟨hresult, hleft, -⟩ := run_start_eq_iterate hplan l id now clock c le_rfl
  obtain ⟨hresult₀, hleft₀, -⟩ := run_start_eq_iterate hplan₀ l id now clock c (h.cost _).ge
  have hsame := halike.stage_eq
  rw [hresult, hresult₀] at hsame
  refine ⟨Stage.finished.inj hsame, ?_, ?_, ?_⟩
  · exact hleft ▸ hleft₀ ▸ halike.agrees
  · exact hleft₀ ▸ halike.keyspace
  · exact hleft ▸ hothers

end Stage

end LeaseQueue
