/-
Clients that share a keyspace, interleaved one request at a time.

* `Action`, `System.step`: a client begins a call, makes its next request, or fails to;
* `System.run`: the system after a run of actions, from an empty keyspace without clients;
* `Action.created`: the ids of the tasks that a run may create;
* `System.commit?`, `System.insert?`, `System.forget?`: what an action does to the shared data, if
  it does anything: a guarded batch that is applied, a new task that is stored, an id that is
  dropped from the leases;
* `System.Returns`: the call that an action ends, with its result.

A client stops for good by not acting any more. One that begins a call gives up the call it was in,
as if it had stopped and another had come.
-/
import LeaseQueue.Proofs.Clients.Stages
import LeaseQueue.Proofs.Keyspace.Progress

namespace LeaseQueue

/-- A client with the call it is in. -/
structure Client where
  call : Call
  stage : Stage

/-- A keyspace and its clients. -/
structure System where
  keyspace : Keyspace
  clients : Nat → Option Client

/-- How a request fails without writing anything. -/
inductive Fault where
  /-- The request cannot be made or answered. -/
  | broken (error : StoreError)
  /-- A batch is refused, whatever its guards say. -/
  | refused
deriving DecidableEq, Repr

/-- The answer to a request that fails. -/
def Fault.answer : Fault → Except StoreError Reply
  | broken error => .error error
  | refused => .ok (.committed false)

/-- What a client does next, and the time it reads. -/
inductive Action where
  /-- Begin a call; `id` is the id of a task that the call may create. -/
  | begin (client : Nat) (id : String) (now : Timestamp) (call : Call)
  /-- Make the next request. -/
  | advance (client : Nat) (now : Timestamp)
  /-- Fail to make the next request. -/
  | fault (client : Nat) (now : Timestamp) (fault : Fault)
deriving DecidableEq, Repr

namespace Action

/-- The client that acts. -/
def client : Action → Nat
  | begin i _ _ _ => i
  | advance i _ => i
  | fault i _ _ => i

/-- The ids of the tasks that an action may create. -/
def created : Action → List String
  | begin _ id _ call => if call.isEnqueue then [id] else []
  | _ => []

end Action

namespace System

/-- No data and no clients. -/
def empty : System := ⟨.empty, fun _ => none⟩

/-- Let a client stand where it is told. -/
def put (s : System) (i : Nat) (c : Client) : System :=
  { s with clients := Function.update s.clients i (some c) }

/-- One action. A client that is in no call does nothing. -/
def step (l : Layout) (s : System) : Action → System
  | .begin i id now call => s.put i ⟨call, Stage.start id now call⟩
  | .advance i now =>
    match s.clients i with
    | none => s
    | some c =>
      let (stage, keyspace) := Stage.advance l now (c.stage, s.keyspace)
      { s with keyspace }.put i ⟨c.call, stage⟩
  | .fault i now fault =>
    match s.clients i with
    | none => s
    | some c => s.put i ⟨c.call, c.stage.resume l now fault.answer⟩

/-- The system after a run of actions. -/
def run (l : Layout) (actions : List Action) : System := actions.foldl (step l) empty

/-- The ids of the tasks that a run may create. -/
def created (actions : List Action) : List String := actions.flatMap Action.created

/-! ### What an action does -/

/-- The stage whose request an action makes. -/
def requesting (s : System) : Action → Option Stage
  | .advance i _ => (s.clients i).map Client.stage
  | _ => none

/-- The guarded batch that an action commits. -/
def commit? (l : Layout) (s : System) (a : Action) : Option GuardedWrite :=
  ((s.requesting a).bind Stage.write?).filter fun w =>
    (l.guarded w.read).guards.all s.keyspace.holds

/-- An action applies a guarded batch of a task. -/
def Commits (l : Layout) (s : System) (a : Action) (id : String) : Prop :=
  ∃ w ∈ s.commit? l a, w.read.id = id

/-- The new task that an action stores. -/
def insert? (s : System) (a : Action) : Option Task := (s.requesting a).bind Stage.insert?

/-- The id that an action drops from the leases. -/
def forget? (s : System) (a : Action) : Option String := (s.requesting a).bind Stage.forget?

/-- An action ends a call with a result. -/
def Returns (l : Layout) (s : System) (a : Action) (call : Call)
    (result : Except StoreError Outcome) : Prop :=
  ∃ stage, s.clients a.client = some ⟨call, stage⟩ ∧ stage.request l ≠ none ∧
    (s.step l a).clients a.client = some ⟨call, .finished result⟩ ∧
    ∀ i id now c, a ≠ .begin i id now c

/-! ### Runs -/

variable {l : Layout} {s : System}

@[simp] lemma run_nil (l : Layout) : run l [] = empty := rfl

lemma run_append_singleton (l : Layout) (actions : List Action) (a : Action) :
    run l (actions ++ [a]) = (run l actions).step l a := by
  rw [run, List.foldl_append]
  rfl

lemma created_append_singleton (actions : List Action) (a : Action) :
    created (actions ++ [a]) = created actions ++ a.created := by
  rw [created, List.flatMap_append, List.flatMap_singleton, created]

/-- An action leaves the other clients alone. -/
lemma clients_step_of_ne (a : Action) {i : Nat} (h : i ≠ a.client) :
    (s.step l a).clients i = s.clients i := by
  cases a with
  | begin j id now call => exact Function.update_of_ne h _ _
  | advance j now =>
      rw [step]
      cases s.clients j with
      | none => rfl
      | some c => exact Function.update_of_ne h _ _
  | fault j now fault =>
      rw [step]
      cases s.clients j with
      | none => rfl
      | some c => exact Function.update_of_ne h _ _

/-- Only an action that advances a client makes its request. -/
lemma of_requesting {a : Action} {stage : Stage} (h : s.requesting a = some stage) :
    ∃ now c, a = .advance a.client now ∧ s.clients a.client = some c ∧ c.stage = stage := by
  cases a with
  | advance i now =>
      rw [requesting, Option.map_eq_some_iff] at h
      obtain ⟨c, hc, rfl⟩ := h
      exact ⟨now, c, rfl, hc, rfl⟩
  | begin i id now call => simp [requesting] at h
  | fault i now fault => simp [requesting] at h

/-- A prepared batch is committed if its guards hold. -/
lemma commit?_of_write? {a : Action} {stage : Stage} {w : GuardedWrite}
    (h : s.requesting a = some stage) (hw : stage.write? = some w) :
    s.commit? l a = if (l.guarded w.read).guards.all s.keyspace.holds then some w else none := by
  rw [commit?, h, Option.bind_some, hw]
  rfl

/-- Nothing is committed that has not been prepared. -/
lemma commit?_of_write?_eq_none {a : Action} {stage : Stage} (h : s.requesting a = some stage)
    (hw : stage.write? = none) : s.commit? l a = none := by
  rw [commit?, h, Option.bind_some, hw]
  rfl

/-- Only a request that is made touches the keyspace. -/
lemma keyspace_step (l : Layout) (s : System) (a : Action) :
    (s.step l a).keyspace = match s.requesting a with
      | none => s.keyspace
      | some stage => match stage.request l with
        | none => s.keyspace
        | some q => (s.keyspace.answer q).2 := by
  cases a with
  | begin i id now call => rfl
  | advance i now =>
      rw [step, requesting]
      cases s.clients i with
      | none => rfl
      | some c =>
          change (Stage.advance l now (c.stage, s.keyspace)).2 = match c.stage.request l with
            | none => s.keyspace
            | some q => (s.keyspace.answer q).2
          rw [Stage.advance]
          dsimp only
          cases c.stage.request l <;> rfl
  | fault i now fault =>
      change (s.step l (.fault i now fault)).keyspace = s.keyspace
      rw [step]
      cases s.clients i <;> rfl

end System

end LeaseQueue
