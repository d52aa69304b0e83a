/-
What a session keeps while other connections speak to the server.

* `DataCommand.hash_run`: a command leaves every hash alone whose key it does not report;
* `Steady`: one session goes on collecting and watching as before, and as long as it is undisturbed
  the hashes under its watched keys are as they were;
* `steady_execute`, `steady_edit`: so it is with every step of another connection;
* `keyspace_carryOutAll`: a group of writes has the effect of the writes, one after the other.
-/
import LeaseQueue.Proofs.Keyspace.View
import LeaseQueue.Server.Execution

namespace LeaseQueue.Server

variable {n m : Nat} {s s' s'' : Server} {key : String}

/-! ### Reported changes -/

/-- A command leaves every hash alone whose key it does not report. -/
lemma DataCommand.hash_run {c : DataCommand} {ks : Keyspace} (h : c.changed? ks ≠ some key) :
    (c.run ks).2.hash key = ks.hash key := by
  cases c with
  | popMin key' =>
      rw [← ks.hash_popMin key' key, run]
      split <;> simp_all
  | write op =>
      rw [run, Keyspace.hash_apply]
      cases op with
      | hashSet key' fields => exact if_neg fun heq => h (by rw [changed?, heq])
      | _ => rfl
  | _ => rfl

namespace Session

variable {σ : Session}

@[simp] lemma watched_disturb : (σ.disturb key).watched = σ.watched := by
  unfold disturb
  split <;> rfl

@[simp] lemma group_disturb : (σ.disturb key).group = σ.group := by
  unfold disturb
  split <;> rfl

/-- A change disturbs the sessions that watch its key. -/
lemma disturbed_disturb :
    (σ.disturb key).disturbed = false ↔ σ.disturbed = false ∧ key ∉ σ.watched := by
  unfold disturb
  split <;> simp_all

end Session

/-! ### Steady sessions -/

/-- The session of a connection goes on as before, except that it may have been disturbed; as long
as it is not, the hashes under its watched keys are as they were. -/
structure Steady (n : Nat) (s s' : Server) : Prop where
  watched : (s'.session n).watched = (s.session n).watched
  group : (s'.session n).group = (s.session n).group
  undisturbed : (s'.session n).disturbed = false → (s.session n).disturbed = false
  hash : (s'.session n).disturbed = false →
    ∀ key ∈ (s.session n).watched, s'.keyspace.hash key = s.keyspace.hash key

namespace Steady

lemma refl (n : Nat) (s : Server) : Steady n s s := ⟨rfl, rfl, id, fun _ _ _ => rfl⟩

lemma trans (h : Steady n s s') (h' : Steady n s' s'') : Steady n s s'' where
  watched := h'.watched.trans h.watched
  group := h'.group.trans h.group
  undisturbed hq := h.undisturbed (h'.undisturbed hq)
  hash hq key hkey :=
    (h'.hash hq key (h.watched ▸ hkey)).trans (h.hash (h'.undisturbed hq) key hkey)

/-- A session of another connection is replaced. -/
lemma setSession (hm : m ≠ n) (s : Server) (σ : Session) : Steady n s (s.setSession m σ) := by
  have hn : (s.setSession m σ).session n = s.session n := if_neg hm.symm
  refine ⟨?_, ?_, ?_, fun _ _ _ => rfl⟩ <;> rw [hn]
  exact id

end Steady

/-- Data under reported keys change. -/
lemma steady_of_disturb (n : Nat) (s : Server) {ks : Keyspace} (l : List String)
    (hks : ∀ key ∉ l, ks.hash key = s.keyspace.hash key) :
    Steady n s { l.foldl (fun s key => s.disturb (some key)) s with keyspace := ks } := by
  have hsession (l : List String) (s : Server) :
      let σ := (l.foldl (fun s key => s.disturb (some key)) s).session n
      σ.watched = (s.session n).watched ∧ σ.group = (s.session n).group ∧
        (σ.disturbed = false →
          (s.session n).disturbed = false ∧ ∀ key ∈ l, key ∉ (s.session n).watched) := by
    induction l generalizing s with
    | nil => simp
    | cons key l ih =>
        obtain ⟨hwatched, hgroup, hquiet⟩ := ih (s.disturb (some key))
        refine ⟨hwatched.trans Session.watched_disturb, hgroup.trans Session.group_disturb, ?_⟩
        intro hq
        obtain ⟨hquiet, hl⟩ := hquiet hq
        obtain ⟨hquiet, hkey⟩ := Session.disturbed_disturb.mp hquiet
        refine ⟨hquiet, List.forall_mem_cons.mpr ⟨hkey, fun key' hkey' => ?_⟩⟩
        simpa [disturb] using hl key' hkey'
  obtain ⟨hwatched, hgroup, hquiet⟩ := hsession l s
  exact ⟨hwatched, hgroup, fun hq => (hquiet hq).1,
    fun hq key hkey => hks key fun hl => (hquiet hq).2 key hl hkey⟩

/-- A command is carried out on the data. -/
lemma steady_carryOut (n : Nat) (s : Server) (c : DataCommand) : Steady n s (s.carryOut c).2 := by
  have hsteady {l : List String} (hl : ∀ key, c.changed? s.keyspace = some key → key ∈ l) :
      Steady n s { l.foldl (fun s key => s.disturb (some key)) s with
        keyspace := (c.run s.keyspace).2 } :=
    steady_of_disturb n s l fun key hkey => DataCommand.hash_run fun hc => hkey (hl key hc)
  cases hc : c.changed? s.keyspace with
  | none => simpa [carryOut, hc, disturb] using hsteady (l := []) (by simp [hc])
  | some key => simpa [carryOut, hc] using hsteady (l := [key]) (by simp [hc])

/-- The commands of a group are carried out. -/
lemma steady_carryOutAll (n : Nat) (s : Server) (group : List Command) :
    Steady n s (s.carryOutAll group).2 := by
  induction group generalizing s with
  | nil => exact .refl n s
  | cons c group ih =>
      have hc : Steady n s (s.carryOutGrouped c).2 := by
        cases c with
        | data c => exact steady_carryOut n s c
        | _ => exact .refl n s
      exact hc.trans (ih _)

/-- Another connection gives a command. -/
theorem steady_execute (hm : m ≠ n) (s : Server) (c : Command) :
    Steady n s (s.execute m c).2 := by
  have hset := Steady.setSession hm s
  rw [execute]
  cases (s.session m).group with
  | none =>
      simp only [serve]
      split
      · exact .refl n s
      · cases c with
        | data c => exact steady_carryOut n s c
        | exec => exact .refl n s
        | watch | unwatch | multi => exact hset _
  | some group =>
      simp only [collect]
      split
      · exact hset _
      · cases c with
        | exec =>
            simp only [runGroup]
            split_ifs
            · exact hset _
            · exact hset _
            · exact (hset _).trans (steady_carryOutAll n _ group)
        | multi | watch => exact .refl n s
        | data | unwatch => exact hset _

/-- Another connection does something of its own. -/
theorem steady_edit (n : Nat) (s : Server) (e : Edit) : Steady n s (s.edit e) :=
  steady_of_disturb n s _ (e.hash_run s.keyspace)

/-! ### Groups of writes -/

/-- The commands of some writes. -/
def writeCommands (ops : List WriteOp) : List Command := ops.map fun op => .data (.write op)

/-- A group of writes has the effect of the writes, one after the other. -/
lemma keyspace_carryOutAll (s : Server) (ops : List WriteOp) :
    (s.carryOutAll (writeCommands ops)).2.keyspace = ops.foldl Keyspace.apply s.keyspace := by
  induction ops generalizing s with
  | nil => rfl
  | cons op ops ih => exact ih _

end LeaseQueue.Server
