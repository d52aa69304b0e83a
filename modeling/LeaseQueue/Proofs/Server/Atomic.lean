/-
Guarded batches are applied at one moment, whatever other connections do.

* `Exchange.Silent`, `Exchange.Declines`, `Exchange.Applies`: what the run of a batch has done to
  the data: nothing; nothing, after a moment at which a guard did not hold; exactly what a commit
  does, at the moment when its group is run;
* `Surety`: the guards that have been read hold, unless the session is disturbed;
* `Progress`: what is known at each stage of a guarded batch; kept by every turn
  (`Progress.speak`, `Progress.steady`);
* `Exchange.atomic`: the result of a guarded batch is that of a commit at one moment of its run.
-/
import LeaseQueue.Proofs.Server.Sessions
import LeaseQueue.Server.Dialogue

namespace LeaseQueue

/-- The key of every guard is guarded. -/
lemma Batch.key_mem_guardedKeys {b : Batch} {g : FieldGuard} (hg : g ∈ b.guards) :
    g.key ∈ b.guardedKeys := by
  have hmem (guards : List FieldGuard) (keys : List String) :
      ∀ key, key ∈ keys ∨ key ∈ guards.map (·.key) → key ∈ guards.foldl
        (fun keys g => if keys.contains g.key then keys else keys ++ [g.key]) keys := by
    induction guards generalizing keys with
    | nil => simp
    | cons g guards ih =>
        intro key hkey
        refine ih _ key ?_
        rw [List.map_cons, List.mem_cons] at hkey
        dsimp only
        split_ifs with hold
        · rw [List.contains_iff_mem] at hold
          rcases hkey with hkey | rfl | hkey
          exacts [.inl hkey, .inl hold, .inr hkey]
        · rcases hkey with hkey | rfl | hkey
          exacts [.inl (by simp [hkey]), .inl (by simp), .inr hkey]
  exact hmem b.guards [] g.key (.inr (List.mem_map_of_mem hg))

namespace Server

variable {n : Nat} {batch : Batch} {e : Exchange} {turns : List Turn} {s s' : Server}

/-! ### What a run has done -/

namespace Exchange

/-- The state after some turns and one more. -/
@[simp] lemma run_append_singleton (n : Nat) (e : Exchange) (turns : List Turn) (t : Turn) :
    e.run n (turns ++ [t]) = (e.run n turns).turn n t := List.foldl_concat ..

/-- No turn of the connection itself changes the data. -/
def Silent (n : Nat) (e : Exchange) (turns : List Turn) : Prop :=
  ∀ before, before ++ [.own] <+: turns →
    (e.run n (before ++ [.own])).server.keyspace = (e.run n before).server.keyspace

/-- The connection does not change the data, and at some moment before its result not all guards
hold. -/
def Declines (n : Nat) (batch : Batch) (e : Exchange) (turns : List Turn) : Prop :=
  e.Silent n turns ∧ ∃ moment, moment <+: turns ∧ (e.run n moment).dialogue.result? = none ∧
    batch.guards.all (e.run n moment).server.keyspace.holds = false

/-- The connection changes the data when it runs the group, and at no other turn; what changes then
is what a commit changes, and all guards hold. -/
def Applies (n : Nat) (batch : Batch) (e : Exchange) (turns : List Turn) : Prop :=
  ∃ before, before ++ [.own] <+: turns ∧
    (e.run n before).dialogue.command = some .exec ∧
    (e.run n before).server.keyspace.commit batch
      = (true, (e.run n (before ++ [.own])).server.keyspace) ∧
    ∀ other, other ≠ before → other ++ [.own] <+: turns →
      (e.run n (other ++ [.own])).server.keyspace = (e.run n other).server.keyspace

/-- One more turn that leaves the data alone, or belongs to somebody else. -/
def Still (n : Nat) (e : Exchange) (turns : List Turn) (t : Turn) : Prop :=
  t = .own → (e.run n (turns ++ [t])).server.keyspace = (e.run n turns).server.keyspace

lemma own_prefix_snoc {before : List Turn} {t : Turn} :
    before ++ [.own] <+: turns ++ [t] ↔
      (before = turns ∧ .own = t) ∨ before ++ [.own] <+: turns := by
  rw [List.prefix_concat_iff, ← List.concat_eq_append, ← List.concat_eq_append, List.concat_inj]

lemma Silent.snoc {t : Turn} (h : e.Silent n turns) (ht : e.Still n turns t) :
    e.Silent n (turns ++ [t]) := by
  intro before hbefore
  obtain ⟨rfl, rfl⟩ | hbefore := own_prefix_snoc.mp hbefore
  · exact ht rfl
  · exact h before hbefore

lemma Declines.snoc {t : Turn} (h : e.Declines n batch turns) (ht : e.Still n turns t) :
    e.Declines n batch (turns ++ [t]) := by
  obtain ⟨hsilent, moment, hmoment, hrest⟩ := h
  exact ⟨hsilent.snoc ht, moment, hmoment.trans (List.prefix_append ..), hrest⟩

lemma Applies.snoc {t : Turn} (h : e.Applies n batch turns) (ht : e.Still n turns t) :
    e.Applies n batch (turns ++ [t]) := by
  obtain ⟨before, hbefore, hexec, hcommit, hothers⟩ := h
  refine ⟨before, hbefore.trans (List.prefix_append ..), hexec, hcommit, ?_⟩
  intro other hne hother
  obtain ⟨rfl, rfl⟩ | hother := own_prefix_snoc.mp hother
  · exact ht rfl
  · exact hothers other hne hother

end Exchange

open Exchange

/-! ### Guards that have been read -/

/-- The keys of all guards are watched, and the given guards hold unless the session is
disturbed. -/
structure Surety (n : Nat) (batch : Batch) (s : Server) (guards : List FieldGuard) : Prop where
  watched : ∀ g ∈ batch.guards, g.key ∈ (s.session n).watched
  subset : guards ⊆ batch.guards
  holds : (s.session n).disturbed = false → ∀ g ∈ guards, s.keyspace.holds g = true

namespace Surety

variable {guards : List FieldGuard}

/-- Others change no guarded hash without disturbing the session. -/
lemma steady (h : Surety n batch s guards) (hs : Steady n s s') : Surety n batch s' guards where
  watched g hg := hs.watched ▸ h.watched g hg
  subset := h.subset
  holds hq g hg := by
    have hhash := hs.hash hq g.key (h.watched g (h.subset hg))
    have hholds := h.holds (hs.undisturbed hq) g hg
    rw [Keyspace.holds_iff] at hholds ⊢
    rw [hhash, hholds]

/-- One more guard is read. -/
lemma snoc {g : FieldGuard} (h : Surety n batch s guards) (hg : g ∈ batch.guards)
    (hholds : s.keyspace.holds g = true) : Surety n batch s (guards ++ [g]) where
  watched := h.watched
  subset := List.append_subset.mpr ⟨h.subset, by simpa using hg⟩
  holds hq := by simpa [or_imp, forall_and, hholds] using h.holds hq

/-- The keys are put under watch. -/
lemma watch (n : Nat) (batch : Batch) (s : Server) :
    Surety n batch (s.setSession n
      { s.session n with watched := (s.session n).watched ++ batch.guardedKeys }) [] where
  watched g hg := by
    simp [setSession, Batch.key_mem_guardedKeys hg]
  subset := List.nil_subset _
  holds _ := by simp

/-- The session collects something else. -/
lemma setSession {σ : Session} (h : Surety n batch s guards)
    (hwatched : σ.watched = (s.session n).watched)
    (hdisturbed : σ.disturbed = (s.session n).disturbed) :
    Surety n batch (s.setSession n σ) guards where
  watched g hg := by simpa [Server.setSession, hwatched] using h.watched g hg
  subset := h.subset
  holds := by simpa [Server.setSession, hdisturbed] using h.holds

end Surety

/-! ### Stages -/

/-- An exchange that can only fail. -/
def Dialogue.Doomed : Dialogue → Prop
  | queueing _ _ _ (some _) | executing _ (some _) | finished (.error _) => True
  | _ => False

namespace Dialogue

lemma Doomed.hear {d : Dialogue} (h : d.Doomed) (a : Answer) : (d.hear a).Doomed := by
  match d, h with
  | .queueing batch op rest (some reason), _ => cases a <;> cases rest <;> trivial
  | .executing batch (some reason), _ => trivial
  | .finished (.error _), _ => trivial

/-- The group of a batch goes on failing once a write has been refused. -/
lemma doomed_nextWrite (batch : Batch) (reason : String) (ops : List WriteOp) :
    (nextWrite batch (some reason) ops).Doomed := by
  cases ops <;> trivial

end Dialogue

/-- What is known at each stage of a guarded batch. -/
inductive Progress (n : Nat) (batch : Batch) (e : Exchange) (turns : List Turn) :
    Dialogue → Server → Prop
  | watching {s : Server} (silent : e.Silent n turns) : Progress n batch e turns (.watching batch) s
  | checking {s : Server} {done rest : List FieldGuard} {g : FieldGuard}
      (silent : e.Silent n turns) (split : batch.guards = done ++ g :: rest)
      (free : (s.session n).group = none) (sure : Surety n batch s done) :
      Progress n batch e turns (.checking batch g rest) s
  | withdrawing {s : Server} (declines : e.Declines n batch turns)
      (free : (s.session n).group = none) : Progress n batch e turns .withdrawing s
  | opening {s : Server} (silent : e.Silent n turns) (free : (s.session n).group = none)
      (sure : Surety n batch s batch.guards) : Progress n batch e turns (.opening batch) s
  | queueing {s : Server} {done rest : List WriteOp} {op : WriteOp}
      (silent : e.Silent n turns) (split : batch.ops = done ++ op :: rest)
      (group : (s.session n).group = some (writeCommands done))
      (sure : Surety n batch s batch.guards) :
      Progress n batch e turns (.queueing batch op rest none) s
  | executing {s : Server} (silent : e.Silent n turns)
      (group : (s.session n).group = some (writeCommands batch.ops))
      (sure : Surety n batch s batch.guards) :
      Progress n batch e turns (.executing batch none) s
  | releasing {s : Server} (applies : e.Applies n batch turns) (free : (s.session n).group = none) :
      Progress n batch e turns .releasing s
  | accepted {s : Server} (applies : e.Applies n batch turns) :
      Progress n batch e turns (.finished (.ok (.committed true))) s
  | declined {s : Server} (declines : e.Declines n batch turns) :
      Progress n batch e turns (.finished (.ok (.committed false))) s
  | doomed {d : Dialogue} {s : Server} (doomed : d.Doomed) : Progress n batch e turns d s

namespace Progress

variable {d : Dialogue}

/-- A turn of somebody else. -/
lemma steady {t : Turn} (h : Progress n batch e turns d s) (hs : Steady n s s') (ht : t ≠ .own) :
    Progress n batch e (turns ++ [t]) d s' := by
  have hstill : e.Still n turns t := fun heq => absurd heq ht
  cases h with
  | watching hsilent => exact .watching (hsilent.snoc hstill)
  | checking hsilent hsplit hfree hsure =>
      exact .checking (hsilent.snoc hstill) hsplit (hs.group.trans hfree) (hsure.steady hs)
  | withdrawing hdeclines hfree => exact .withdrawing (hdeclines.snoc hstill) (hs.group.trans hfree)
  | opening hsilent hfree hsure =>
      exact .opening (hsilent.snoc hstill) (hs.group.trans hfree) (hsure.steady hs)
  | queueing hsilent hsplit hgroup hsure =>
      exact .queueing (hsilent.snoc hstill) hsplit (hs.group.trans hgroup) (hsure.steady hs)
  | executing hsilent hgroup hsure =>
      exact .executing (hsilent.snoc hstill) (hs.group.trans hgroup) (hsure.steady hs)
  | releasing happlies hfree => exact .releasing (happlies.snoc hstill) (hs.group.trans hfree)
  | accepted happlies => exact .accepted (happlies.snoc hstill)
  | declined hdeclines => exact .declined (hdeclines.snoc hstill)
  | doomed hdoomed => exact .doomed hdoomed

end Progress

/-! ### The turns of the connection itself -/

section Speak

variable (hfree : (s.session n).group = none)

include hfree in
lemma execute_hashGet (key field : String) :
    s.execute n (.data (.hashGet key field)) =
      (.value (match (s.keyspace.hash key).get? field with
        | some v => .text v
        | none => .absent), s) := by
  rw [execute, hfree]
  rfl

include hfree in
lemma execute_unwatch : s.execute n .unwatch = (.done, s.setSession n .fresh) := by
  rw [execute, hfree]
  rfl

include hfree in
lemma execute_multi :
    s.execute n .multi = (.done, s.setSession n { s.session n with group := some [] }) := by
  rw [execute, hfree]
  rfl

end Speak

/-- Keys are put under watch, or the server refuses to. -/
lemma execute_watch (n : Nat) (s : Server) (keys : List String) :
    (∃ reason s', s.execute n (.watch keys) = (.refused reason, s') ∧ s'.keyspace = s.keyspace) ∨
      (s.session n).group = none ∧ s.execute n (.watch keys) = (.done, s.setSession n
        { s.session n with watched := (s.session n).watched ++ keys }) := by
  rw [execute]
  cases hgroup : (s.session n).group with
  | some group =>
      simp only [collect]
      split <;> exact .inl ⟨_, _, rfl, rfl⟩
  | none =>
      simp only [serve]
      split
      · exact .inl ⟨_, _, rfl, rfl⟩
      · exact .inr ⟨trivial, rfl⟩

/-- A write is put into the group, or the server refuses to. -/
lemma execute_write {group : List Command} (hgroup : (s.session n).group = some group)
    (op : WriteOp) :
    (∃ reason s', s.execute n (.data (.write op)) = (.refused reason, s')) ∨
      s.execute n (.data (.write op)) = (.queued, s.setSession n
        { s.session n with group := some (group ++ [.data (.write op)]) }) := by
  rw [execute, hgroup]
  simp only [collect]
  split
  · exact .inl ⟨_, _, rfl⟩
  · exact .inr rfl

/-- A group of writes is refused, called off because the session is disturbed, or applied. -/
lemma execute_exec {ops : List WriteOp} (hgroup : (s.session n).group = some (writeCommands ops)) :
    (∃ reason s', s.execute n .exec = (.refused reason, s')) ∨
      (∃ s', s.execute n .exec = (.calledOff, s') ∧ s'.keyspace = s.keyspace) ∨
      (s.session n).disturbed = false ∧ ∃ vs s', s.execute n .exec = (.group vs, s') ∧
        (s'.session n).group = none ∧ s'.keyspace = ops.foldl Keyspace.apply s.keyspace := by
  rw [execute, hgroup]
  simp only [collect, Command.isComplete, Bool.not_true, Bool.false_eq_true, ↓reduceIte, runGroup]
  split_ifs with hspoiled hdisturbed
  · exact .inl ⟨_, _, rfl⟩
  · exact .inr (.inl ⟨_, rfl, rfl⟩)
  · refine .inr (.inr ⟨by simpa using hdisturbed, _, _, rfl, ?_, keyspace_carryOutAll ..⟩)
    rw [(steady_carryOutAll n _ _).group]
    simp [setSession, Session.fresh]

/-- The connection gives the command of its stage and hears the answer. -/
lemma speak_eq {d : Dialogue} {c : Command} {a : Answer} (hc : d.command = some c)
    (hexecute : s.execute n c = (a, s')) : speak n ⟨d, s⟩ = ⟨d.hear a, s'⟩ := by
  simp only [speak, hc, hexecute]

namespace Progress

variable {d : Dialogue}

/-- A turn of the connection that leaves the data alone. -/
lemma still_own (hx : e.run n turns = ⟨d, s⟩)
    (hs : (speak n ⟨d, s⟩).server.keyspace = s.keyspace) : e.Still n turns .own := by
  intro _
  rw [run_append_singleton, hx]
  exact hs

/-- A guard has been read. -/
lemma read {done rest : List FieldGuard} {g : FieldGuard} (hops : batch.ops ≠ [])
    (hx : e.run n turns = ⟨.checking batch g rest, s⟩) (hsilent : e.Silent n turns)
    (hsplit : batch.guards = done ++ g :: rest) (hfree : (s.session n).group = none)
    (hsure : Surety n batch s done) :
    Progress n batch e (turns ++ [.own]) (speak n ⟨.checking batch g rest, s⟩).dialogue
      (speak n ⟨.checking batch g rest, s⟩).server := by
  have hg : g ∈ batch.guards := by simp [hsplit]
  have hspeak : speak n ⟨.checking batch g rest, s⟩ =
      ⟨if s.keyspace.holds g then .nextGuard batch rest else .withdrawing, s⟩ := by
    simp only [speak, Dialogue.command, execute_hashGet hfree, Dialogue.hear]
    cases hv : (s.keyspace.hash g.key).get? g.field <;> simp [Keyspace.holds, hv]
  have hsilent' := hsilent.snoc (still_own hx (by rw [hspeak]))
  rw [hspeak]
  dsimp only
  split_ifs with hholds
  · have hsure' := hsure.snoc hg hholds
    cases rest with
    | nil =>
        rw [Dialogue.nextGuard, if_neg (by simpa using hops)]
        exact .opening hsilent' hfree (hsplit ▸ hsure')
    | cons g' rest => exact .checking hsilent' (by simpa using hsplit) hfree hsure'
  · refine .withdrawing ⟨hsilent', turns, List.prefix_append .., by rw [hx]; rfl, ?_⟩ hfree
    rw [hx, List.all_eq_false]
    exact ⟨g, hg, by simpa using hholds⟩

/-- The connection has its turn. -/
theorem own (hguards : batch.guards ≠ []) (hops : batch.ops ≠ []) (hx : e.run n turns = ⟨d, s⟩)
    (h : Progress n batch e turns d s) :
    Progress n batch e (turns ++ [.own]) (speak n ⟨d, s⟩).dialogue (speak n ⟨d, s⟩).server := by
  cases h with
  | watching hsilent =>
      obtain ⟨reason, s', hexecute, hs'⟩ | ⟨hfree, hexecute⟩ := execute_watch n s batch.guardedKeys
      · rw [speak_eq rfl hexecute]
        exact .doomed trivial
      · have hsilent' := hsilent.snoc (still_own hx (by rw [speak_eq rfl hexecute]; rfl))
        obtain ⟨g, rest, hsplit⟩ := List.exists_cons_of_ne_nil hguards
        rw [speak_eq rfl hexecute, Dialogue.hear, hsplit]
        exact .checking hsilent' hsplit (by simpa [setSession] using hfree) (.watch n batch s)
  | checking hsilent hsplit hfree hsure => exact read hops hx hsilent hsplit hfree hsure
  | withdrawing hdeclines hfree =>
      have hspeak := speak_eq (d := .withdrawing) rfl (execute_unwatch hfree)
      have hstill := still_own hx (by rw [hspeak]; rfl)
      rw [hspeak]
      exact .declined (hdeclines.snoc hstill)
  | opening hsilent hfree hsure =>
      have hspeak := speak_eq (d := .opening batch) rfl (execute_multi hfree)
      have hsilent' := hsilent.snoc (still_own hx (by rw [hspeak]; rfl))
      obtain ⟨op, rest, hsplit⟩ := List.exists_cons_of_ne_nil hops
      simp only [hspeak, Dialogue.hear, hsplit]
      exact .queueing hsilent' (show batch.ops = [] ++ op :: rest from hsplit)
        (by simp [setSession, writeCommands]) (hsure.setSession rfl rfl)
  | @queueing _ done rest op hsilent hsplit hgroup hsure =>
      obtain ⟨reason, s', hexecute⟩ | hexecute := execute_write hgroup op
      · rw [speak_eq rfl hexecute]
        exact .doomed (Dialogue.doomed_nextWrite ..)
      · have hgroup' :
            writeCommands done ++ [.data (.write op)] = writeCommands (done ++ [op]) := by
          simp [writeCommands]
        have hspeak := speak_eq (d := .queueing batch op rest none) rfl hexecute
        have hsilent' := hsilent.snoc (still_own hx (by rw [hspeak]; rfl))
        rw [hspeak, hgroup']
        cases rest with
        | nil =>
            exact .executing hsilent' (by simp [setSession, hsplit]) (hsure.setSession rfl rfl)
        | cons op' rest =>
            exact .queueing hsilent'
              (show batch.ops = (done ++ [op]) ++ op' :: rest by simpa using hsplit)
              (by simp [setSession]) (hsure.setSession rfl rfl)
  | executing hsilent hgroup hsure =>
      obtain ⟨reason, s', hexecute⟩ | ⟨s', hexecute, hs'⟩ |
        ⟨hquiet, vs, s', hexecute, hfree, hs'⟩ := execute_exec hgroup
      · rw [speak_eq rfl hexecute]
        exact .doomed trivial
      · have hspeak : speak n ⟨.executing batch none, s⟩ = ⟨.watching batch, s'⟩ := by
          rw [speak_eq rfl hexecute]
          simp [Dialogue.hear, Dialogue.afterGroup, hguards]
        have hsilent' := hsilent.snoc (still_own hx (by rw [hspeak]; exact hs'))
        rw [hspeak]
        exact .watching hsilent'
      · have hspeak : speak n ⟨.executing batch none, s⟩ = ⟨.releasing, s'⟩ := by
          rw [speak_eq rfl hexecute]
          simp [Dialogue.hear, Dialogue.afterGroup, hguards]
        have hholds : batch.guards.all s.keyspace.holds = true :=
          List.all_eq_true.mpr (hsure.holds hquiet)
        rw [hspeak]
        refine .releasing ⟨turns, List.prefix_rfl, by rw [hx]; rfl, ?_, ?_⟩ hfree
        · rw [run_append_singleton, hx, Exchange.turn, hspeak, Keyspace.commit_eq, if_pos hholds,
            hs']
        · intro other hne hother
          obtain ⟨heq, -⟩ | hother := own_prefix_snoc.mp hother
          · exact absurd heq hne
          · exact hsilent other hother
  | releasing happlies hfree =>
      have hspeak := speak_eq (d := .releasing) rfl (execute_unwatch hfree)
      have hstill := still_own hx (by rw [hspeak]; rfl)
      rw [hspeak]
      exact .accepted (happlies.snoc hstill)
  | accepted happlies => exact .accepted (happlies.snoc (still_own hx rfl))
  | declined hdeclines => exact .declined (hdeclines.snoc (still_own hx rfl))
  | doomed hdoomed =>
      refine .doomed ?_
      cases hc : d.command with
      | none => simpa [speak, hc] using hdoomed
      | some c => simpa [speak, hc] using hdoomed.hear _

/-- What is known holds all along. -/
theorem run (hguards : batch.guards ≠ []) (hops : batch.ops ≠ []) (s : Server)
    (turns : List Turn) :
    let e : Exchange := ⟨.start (.commit batch), s⟩
    Progress n batch e turns (e.run n turns).dialogue (e.run n turns).server := by
  intro e
  induction turns using List.reverseRecOn with
  | nil =>
      have hstart : e = ⟨.watching batch, s⟩ := by
        simp [e, Dialogue.start, hguards]
      rw [hstart]
      refine .watching fun before hbefore => ?_
      simp at hbefore
  | append_singleton turns t ih =>
      rw [run_append_singleton]
      cases t with
      | own => exact own hguards hops rfl ih
      | other m c =>
          simp only [Exchange.turn]
          split_ifs with hm
          · exact ih.steady (.refl ..) (by simp)
          · exact ih.steady (steady_execute hm ..) (by simp)
      | edit edit => exact ih.steady (steady_edit ..) (by simp)

end Progress

/-- The result of a guarded batch is that of a commit at one moment of its run, whatever other
connections do in between: if it is applied, then by the group at once, when all guards hold; if it
is not, then nothing is changed and not all guards held at some moment. -/
theorem Exchange.atomic (n : Nat) (s : Server) (batch : Batch) (turns : List Turn)
    (hguards : batch.guards ≠ []) (hops : batch.ops ≠ []) :
    let e : Exchange := ⟨.start (.commit batch), s⟩
    let result := (e.run n turns).dialogue.result?
    (result = some (.ok (.committed true)) → e.Applies n batch turns) ∧
      (result = some (.ok (.committed false)) → e.Declines n batch turns) := by
  intro e result
  have h : Progress n batch e turns (e.run n turns).dialogue (e.run n turns).server :=
    .run hguards hops s turns
  generalize hd : (e.run n turns).dialogue = d at h
  have hresult : result = d.result? := congrArg Dialogue.result? hd
  rw [hresult]
  cases h with
  | accepted happlies => simpa [Dialogue.result?] using happlies
  | declined hdeclines => simpa [Dialogue.result?] using hdeclines
  | doomed hdoomed =>
      cases d with
      | finished r =>
          cases r with
          | ok => exact hdoomed.elim
          | error => simp [Dialogue.result?]
      | _ => simp [Dialogue.result?]
  | _ => simp [Dialogue.result?]

/-! ### A contended task -/

/-- A server with one waiting task. -/
def waitingServer : Server :=
  .ofKeyspace (Keyspace.empty.apply (.hashSet "q:task:a" [("status", "PENDING"), ("owner", "")]))

/-- The lease of the task. -/
def leasing : Batch where
  guards := [⟨"q:task:a", "status", "PENDING"⟩, ⟨"q:task:a", "owner", ""⟩]
  ops := [.hashSet "q:task:a" [("status", "IN_PROGRESS"), ("owner", "w")]]

/-- While the guards are being read, another connection writes to the task: first something that
the guards do not name, then its status. -/
def contendedTurns (status : String) : List Turn :=
  [.own, .own, .other 2 (.data (.write (.hashSet "q:task:a" [("note", "n")]))), .own, .own, .own,
    .own, .own, .own, .other 2 (.data (.write (.hashSet "q:task:a" [("status", status)]))), .own,
    .own, .own, .own] ++ List.replicate 7 .own

/-- A lease that is called off twice and then made, as the status was only confirmed; and one that
is called off twice and then not made, as the task was cancelled. -/
theorem Exchange.atomic_contendedTurns :
    let e : Exchange := ⟨.start (.commit leasing), waitingServer⟩
    ((e.run 1 (contendedTurns "PENDING")).dialogue.result? = some (.ok (.committed true)) ∧
        e.Applies 1 leasing (contendedTurns "PENDING")) ∧
      (e.run 1 (contendedTurns "CANCELLED")).dialogue.result? = some (.ok (.committed false)) ∧
        e.Declines 1 leasing (contendedTurns "CANCELLED") := by
  intro e
  have htrue : (e.run 1 (contendedTurns "PENDING")).dialogue.result?
      = some (.ok (.committed true)) := by decide +kernel
  have hfalse : (e.run 1 (contendedTurns "CANCELLED")).dialogue.result?
      = some (.ok (.committed false)) := by decide +kernel
  exact ⟨⟨htrue, (atomic 1 waitingServer leasing _ (by decide) (by decide)).1 htrue⟩,
    hfalse, (atomic 1 waitingServer leasing _ (by decide) (by decide)).2 hfalse⟩

end Server

end LeaseQueue
