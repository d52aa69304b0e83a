/-
Task stores of different names over one keyspace do not interfere.

* `MemoryKeyspace.replay`: calls on the stores of several names over one memory;
* `KeyspaceStore.Mirrors`: two memories without faults agree on a layout;
* `Mirrors.perform`: a call on it has the same result on both, keeps them so, and leaves every other
  layout alone;
* `MemoryKeyspace.own_replay`: the store of each name gives the results that it gives alone, and
  finds no task under an id that it has not created.
-/
import LeaseQueue.Proofs.Keyspace.SharedCalls
import LeaseQueue.Proofs.Ledger.Consistency

namespace LeaseQueue

/-! ### Calls about plain ids -/

/-- The id that a call asks for, and what it returns when there is no task under it. -/
def Call.missing? : Call → Option (String × Except StoreError Outcome)
  | .ack id _ _ | .heartbeat id => some (id, .error (.notFound id))
  | .get id => some (id, .ok (.found none))
  | _ => none

namespace Call

variable {c : Call} {id : String} {r : Except StoreError Outcome}

lemma returns_missing {o : Outcome} (h : c.missing? = some (id, .ok o)) : c.Returns o := by
  cases c <;> cases h
  trivial

/-- A call that finds no task under its id is over after one read. -/
lemma ends_missing {l : Layout} {ks : Keyspace} (h : c.missing? = some (id, r))
    (hloaded : Stage.loaded (l.taskKey id) (.ok (.fields (ks.hash (l.taskKey id)))) = .ok none)
    (newId : String) (now clock : Timestamp) :
    Stage.Ends l clock (fun r' _ => r' = r) 1 (Stage.start newId now c) ks := by
  have hread : ∀ stage : Stage, stage.request l = some (.readHash (l.taskKey id)) →
      stage.resume l clock (.ok (.fields (ks.hash (l.taskKey id)))) = .finished r →
        Stage.Ends l clock (fun r' _ => r' = r) 1 stage ks :=
    fun stage hq hresume => .step hq rfl (hresume ▸ .finished rfl)
  cases c with
  | ack taskId success result =>
      cases h
      exact hread (.acking id success result Stage.maxTries) rfl
        (by rw [Stage.resume, hloaded]; rfl)
  | get taskId =>
      cases h
      exact hread (.fetching id) rfl (by rw [Stage.resume, hloaded]; rfl)
  | heartbeat taskId =>
      cases h
      exact hread (.beating id Stage.maxTries) rfl (by rw [Stage.resume, hloaded]; rfl)
  | _ => cases h

end Call

/-- A call creates tasks under plain ids only, and asks for such ids only. -/
def TimedCall.Plain (e : TimedCall) : Prop :=
  (e.call.isEnqueue = true → Layout.Plain e.id) ∧ ∀ a ∈ e.call.missing?, Layout.Plain a.1

instance (e : TimedCall) : Decidable e.Plain := inferInstanceAs (Decidable (_ ∧ _))

namespace TimedCall.Plain

variable {S : Set String} {e : TimedCall}

/-- A call starts with a plain id, and writes about the id of a task that it creates. -/
lemma within_start (h : e.Plain) (hnew : e.call.isEnqueue = true → e.id ∈ S) :
    (Stage.start e.id e.now e.call).Within S := by
  obtain ⟨id, now, call⟩ := e
  cases call with
  | enqueue type payload metadata =>
      dsimp only [Stage.start]
      cases ht : Task.new id now type payload metadata with
      | error e => trivial
      | ok t =>
          change t.id ∈ S
          rw [(Task.of_new ht).1]
          exact hnew rfl
  | ack taskId success result => exact h.2 _ rfl
  | get taskId => exact h.2 _ rfl
  | heartbeat taskId => exact h.2 _ rfl
  | _ => trivial

end TimedCall.Plain

namespace KeyspaceStore

/-! ### A store and a memory with more data -/

/-- What a call returns is a matter of what its stages return. -/
lemma perform_fst_congr {s s' : KeyspaceStore} {id : String} {now : Timestamp} {c : Call}
    (h : ((Stage.start id now c).run s.layout (c.clock now) s.shared).1
      = ((Stage.start id now c).run s'.layout (c.clock now) s'.shared).1) :
    (Storage.perform s id now c).1 = (Storage.perform s' id now c).1 := by
  cases c <;> exact congrArg (fun r => Except.map _ (Except.bind r _)) h

/-- Two memories without faults agree on a layout, which has ids in a set only in the second. -/
structure Mirrors (l : Layout) (S : Set String) (m m₀ : MemoryKeyspace) : Prop where
  plan : m.plan = .none
  alone : m₀.plan = .none
  agrees : Keyspace.Agrees l m.keyspace m₀.keyspace
  within : m₀.keyspace.Within l S

namespace Mirrors

variable {l : Layout} {S : Set String} {m m₀ : MemoryKeyspace} {e : TimedCall}

lemma empty (l : Layout) : Mirrors l ∅ .empty .empty := ⟨rfl, rfl, .refl l _, .empty l⟩

lemma mono (h : Mirrors l S m m₀) {S' : Set String} (hS : S ⊆ S') : Mirrors l S' m m₀ :=
  ⟨h.plan, h.alone, h.agrees, h.within.mono hS⟩

/-- A call has the same result on both memories, which agree afterwards too, and it leaves every
other layout alone. -/
theorem perform (h : Mirrors l S m m₀) (hS : ∀ id ∈ S, Layout.Plain id) (he : e.Plain)
    (hnew : e.call.isEnqueue = true → e.id ∈ S) :
    (Storage.perform (⟨l, m⟩ : KeyspaceStore) e.id e.now e.call).1
        = (Storage.perform (⟨l, m₀⟩ : KeyspaceStore) e.id e.now e.call).1 ∧
      Mirrors l S (Storage.perform (⟨l, m⟩ : KeyspaceStore) e.id e.now e.call).2.shared
        (Storage.perform (⟨l, m₀⟩ : KeyspaceStore) e.id e.now e.call).2.shared ∧
      ∀ l' ≠ l, Keyspace.Agrees l'
        (Storage.perform (⟨l, m⟩ : KeyspaceStore) e.id e.now e.call).2.shared.keyspace
        m.keyspace := by
  obtain ⟨hresult, hagrees, hwithin, hothers⟩ := Stage.run_start_of_agrees h.agrees h.plan h.alone
    hS (he.within_start hnew) h.within (e.call.clock e.now)
  obtain ⟨-, -, hplan⟩ := Stage.run_start_eq_iterate h.plan l e.id e.now (e.call.clock e.now)
    e.call le_rfl
  obtain ⟨-, -, halone⟩ := Stage.run_start_eq_iterate h.alone l e.id e.now (e.call.clock e.now)
    e.call le_rfl
  rw [CallsOf.perform_snd, CallsOf.perform_snd]
  exact ⟨perform_fst_congr hresult, ⟨hplan, halone, hagrees, hwithin⟩, hothers⟩

/-- There is no task under an id outside of the set. -/
lemma perform_missing (h : Mirrors l S m m₀) (he : e.Plain) {id : String}
    {r : Except StoreError Outcome} (hmissing : e.call.missing? = some (id, r)) (hid : id ∉ S) :
    (Storage.perform (⟨l, m⟩ : KeyspaceStore) e.id e.now e.call).1 = r := by
  have hhash := h.agrees.hash ⟨id, he.2 _ hmissing, rfl⟩
  have hloaded := h.within.loaded_of_notMem hid
  rw [← hhash] at hloaded
  have hends := Call.ends_missing hmissing hloaded e.id e.now (e.call.clock e.now)
  have hrun := (hends.run_start h.plan).1
  rw [CallsOf.perform_fst _ _ _ _ fun o ho => ?_, hrun]
  rw [ho] at hrun
  exact Call.returns_missing (hrun ▸ hmissing)

end Mirrors

end KeyspaceStore

/-! ### Histories of several stores -/

namespace MemoryKeyspace

/-- The results of calls on the stores of several names over one memory, each with its name, and the
memory after them. -/
def replay : MemoryKeyspace → List (String × TimedCall) →
    List (String × Except StoreError Outcome) × MemoryKeyspace
  | m, [] => ([], m)
  | m, (name, e) :: calls =>
    let (r, s) := Storage.perform (⟨⟨name⟩, m⟩ : KeyspaceStore) e.id e.now e.call
    let (rs, m) := replay s.shared calls
    ((name, r) :: rs, m)

/-- What stands under one name. -/
def own {α : Type} (name : String) (l : List (String × α)) : List α :=
  (l.filter fun p => p.1 = name).map Prod.snd

lemma replay_cons (m : MemoryKeyspace) (name : String) (e : TimedCall)
    (calls : List (String × TimedCall)) :
    replay m ((name, e) :: calls)
      = ((name, (Storage.perform (⟨⟨name⟩, m⟩ : KeyspaceStore) e.id e.now e.call).1) ::
          (replay (Storage.perform (⟨⟨name⟩, m⟩ : KeyspaceStore) e.id e.now e.call).2.shared
            calls).1,
        (replay (Storage.perform (⟨⟨name⟩, m⟩ : KeyspaceStore) e.id e.now e.call).2.shared
          calls).2) := rfl

variable {α : Type} {name : String}

lemma mem_own {l : List (String × α)} {a : α} : a ∈ own name l ↔ (name, a) ∈ l := by
  simp [own]

lemma own_append_self (name : String) (l : List (String × α)) (a : α) :
    own name (l ++ [(name, a)]) = own name l ++ [a] := by
  simp [own]

lemma own_append_of_ne (l : List (String × α)) (a : α) {name' : String} (h : name' ≠ name) :
    own name (l ++ [(name', a)]) = own name l := by
  simp [own, h]

lemma replay_append_singleton (m : MemoryKeyspace) (calls : List (String × TimedCall))
    (name : String) (e : TimedCall) :
    replay m (calls ++ [(name, e)])
      = ((replay m calls).1 ++
          [(name, (Storage.perform (⟨⟨name⟩, (replay m calls).2⟩ : KeyspaceStore)
            e.id e.now e.call).1)],
        (Storage.perform (⟨⟨name⟩, (replay m calls).2⟩ : KeyspaceStore)
          e.id e.now e.call).2.shared) := by
  induction calls generalizing m with
  | nil => rfl
  | cons c calls ih =>
      rw [List.cons_append, replay_cons, replay_cons, ih]
      rfl

/-- The memory of the store of a name after its own calls alone. -/
def alone (name : String) (calls : List (String × TimedCall)) : MemoryKeyspace :=
  (Storage.replay (KeyspaceStore.empty name) (own name calls)).2.shared

lemma replay_own_snd (name : String) (calls : List (String × TimedCall)) :
    (Storage.replay (KeyspaceStore.empty name) (own name calls)).2
      = ⟨⟨name⟩, alone name calls⟩ := by
  have hlayout : ∀ (history : List TimedCall) (s : KeyspaceStore),
      (Storage.replay s history).2.layout = s.layout := by
    intro history
    induction history with
    | nil => exact fun s => rfl
    | cons e history ih => exact fun s => (ih _).trans (s.layout_perform e.id e.now e.call)
  have hname : (Storage.replay (KeyspaceStore.empty name) (own name calls)).2.layout = ⟨name⟩ :=
    hlayout _ _
  rw [alone, ← hname]

/-- The ids that the calls on the store of a name may create. -/
def created (name : String) (calls : List (String × TimedCall)) : Set String :=
  {id | id ∈ TimedCall.createdIds (own name calls)}

lemma plain_of_mem_created {calls : List (String × TimedCall)} (h : ∀ c ∈ calls, c.2.Plain) :
    ∀ id ∈ created name calls, Layout.Plain id := by
  intro id hid
  obtain ⟨e, he, rfl⟩ := List.mem_map.mp hid
  obtain ⟨hmem, henqueue⟩ := List.mem_filter.mp he
  exact (h _ (mem_own.mp hmem)).1 henqueue

/-- After every history the stores over one memory have given the results that each gives alone, and
the memory has the data of all of them. -/
lemma mirrors_replay {calls : List (String × TimedCall)} (hplain : ∀ c ∈ calls, c.2.Plain)
    (name : String) :
    own name (replay .empty calls).1
        = (Storage.replay (KeyspaceStore.empty name) (own name calls)).1 ∧
      KeyspaceStore.Mirrors ⟨name⟩ (created name calls) (replay .empty calls).2
        (alone name calls) := by
  induction calls using List.reverseRecOn generalizing name with
  | nil => exact ⟨rfl, (KeyspaceStore.Mirrors.empty ⟨name⟩).mono (Set.empty_subset _)⟩
  | append_singleton calls c ih =>
      obtain ⟨name', e⟩ := c
      have hbefore : ∀ c ∈ calls, c.2.Plain := fun c hc => hplain c (List.mem_append_left _ hc)
      have hcreated : created name' calls ⊆ created name' (calls ++ [(name', e)]) ∧
          (e.call.isEnqueue = true → e.id ∈ created name' (calls ++ [(name', e)])) := by
        rw [created, created, own_append_self, TimedCall.createdIds, TimedCall.createdIds,
          List.filter_append, List.map_append]
        exact ⟨fun id hid => List.mem_append_left _ hid,
          fun he => List.mem_append_right _ (by simp [he])⟩
      obtain ⟨hresult, hmirrors, hothers⟩ :=
        ((ih hbefore name').2.mono hcreated.1).perform (plain_of_mem_created hplain)
          (hplain (name', e) (by simp)) hcreated.2
      rw [replay_append_singleton]
      by_cases hname : name' = name
      · subst hname
        rw [alone, own_append_self, own_append_self, Storage.replay_append, (ih hbefore name').1,
          replay_own_snd, hresult]
        exact ⟨rfl, hmirrors⟩
      · obtain ⟨hresults, hown⟩ := ih hbefore name
        have hne : (⟨name⟩ : Layout) ≠ ⟨name'⟩ := fun heq => hname (Layout.mk.inj heq).symm
        rw [alone, created, own_append_of_ne _ _ hname, own_append_of_ne _ _ hname]
        exact ⟨hresults, hmirrors.plan, hown.alone, (hothers _ hne).trans hown.agrees, hown.within⟩

/-- Over one memory the store of each name gives the results that it gives alone, whatever the other
names are and whatever is done under them; it finds no task under an id that it has not created. -/
theorem own_replay (calls : List (String × TimedCall)) (hplain : ∀ c ∈ calls, c.2.Plain)
    (name : String) :
    own name (replay .empty calls).1
        = (Storage.replay (KeyspaceStore.empty name) (own name calls)).1 ∧
      ∀ p e q, calls = p ++ (name, e) :: q → ∀ id r, e.call.missing? = some (id, r) →
        id ∉ TimedCall.createdIds (own name p) →
        (Storage.perform (⟨⟨name⟩, (replay .empty p).2⟩ : KeyspaceStore) e.id e.now e.call).1
          = r := by
  refine ⟨(mirrors_replay hplain name).1, ?_⟩
  rintro p e q rfl id r hmissing hid
  have hbefore : ∀ c ∈ p, c.2.Plain := fun c hc => hplain c (List.mem_append_left _ hc)
  exact (mirrors_replay hbefore name).2.perform_missing (hplain (name, e) (by simp)) hmissing hid

/-- Two names of which one goes on where the keys of the other do, and an id that either store asks
for and the other one has created. -/
def nestedCalls : List (String × TimedCall) :=
  [("a", ⟨"x", 5, .enqueue "mail" "hello" ∅⟩), ("a:task", ⟨"y", 6, .enqueue "mail" "" ∅⟩),
    ("a", ⟨"", 7, .get "y"⟩), ("a:task", ⟨"", 8, .dequeue "w"⟩), ("a", ⟨"", 9, .ack "y" true none⟩),
    ("a:task", ⟨"", 9, .heartbeat "x"⟩), ("a", ⟨"", 10, .list none⟩)]

theorem own_replay_nestedCalls :
    own "a" (replay .empty nestedCalls).1
        = (Storage.replay (KeyspaceStore.empty "a") (own "a" nestedCalls)).1 ∧
      own "a" (replay .empty nestedCalls).1
        = [.ok (.task ⟨"x", "mail", "hello", ∅, .pending, 5, 5, none, none, 0⟩),
            .ok (.found none), .error (.notFound "y"),
            .ok (.tasks [⟨"x", "mail", "hello", ∅, .pending, 5, 5, none, none, 0⟩])] ∧
      (Storage.perform (⟨⟨"a"⟩, (replay .empty (nestedCalls.take 4)).2⟩ : KeyspaceStore) "" 9
        (.ack "y" true none)).1 = .error (.notFound "y") := by
  obtain ⟨hown, hmissing⟩ := own_replay nestedCalls (by decide) "a"
  exact ⟨hown, by decide +kernel, hmissing (nestedCalls.take 4) ⟨"", 9, .ack "y" true none⟩
    (nestedCalls.drop 5) rfl "y" _ rfl (by decide)⟩

end MemoryKeyspace

end LeaseQueue
