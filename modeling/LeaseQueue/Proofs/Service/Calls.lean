/-
What a service call does to the stored tasks.

* `TaskStore.task?`, `TaskStore.IsEmpty`: the stored tasks of a store of either kind, and a store
  without tasks, under any plan of faults;
* `TaskStore.Holds`, `TaskStore.Holds.perform`: every storage call does what it may on a ledger;
* `ServiceCall.toCall`: the storage call that a service call makes;
* `TimedServiceCall`, `Service.serve`: a service call with the times at which it reads the clock;
* `Service.prepared`: the service after the sweep of a dequeue;
* `Service.store_serve`: what storage calls keep of a store, service calls keep;
* `Service.Serves`, `Service.serves_serve`: every service call answers and does what its storage
  call may, and a dequeue what a sweep may before it.
-/
import LeaseQueue.Broker.Service
import LeaseQueue.Store.TaskStore
import LeaseQueue.Proofs.Ledger.Changes
import LeaseQueue.Proofs.Ledger.Table

namespace LeaseQueue

/-! ### Stores of either kind -/

namespace TaskStore

/-- The task stored under an id, none when there is none that can be read. -/
def task? : TaskStore → String → Option Task
  | table tb, id => (tb.fetch id).toOption.join
  | keyspace s, id => s.shared.keyspace.task? s.layout id

/-- A store holds no task. Reads and commits of a keyspace may fail later in any way. -/
inductive IsEmpty : TaskStore → Prop where
  | table : IsEmpty (table .empty)
  | keyspace (name : String) {plan : FaultPlan} (h : plan.races = []) :
    IsEmpty (keyspace (KeyspaceStore.emptyUnder name plan))

/-- A store keeps the tasks of a ledger. -/
def Holds : TaskStore → Ledger → Prop
  | table tb, L => tb.Holds L
  | keyspace s, L => ∃ lost, KeyspaceStore.Keeps s lost L

variable {s : TaskStore} {L : Ledger}

lemma IsEmpty.holds (h : s.IsEmpty) : s.Holds .empty := by
  cases h with
  | table => exact Table.holds_empty
  | keyspace name h => exact ⟨∅, KeyspaceStore.keeps_emptyUnder name h⟩

lemma Holds.task?_eq (h : s.Holds L) (id : String) : s.task? id = L.get? id := by
  cases s with
  | table tb =>
      rw [task?, Table.Holds.fetch h]
      rfl
  | keyspace s =>
      obtain ⟨lost, hkeeps⟩ := h
      exact hkeeps.keyspace.task?_eq id

lemma perform_table (tb : Table) (id : String) (now : Timestamp) (c : Call) :
    Storage.perform (table tb) id now c
      = ((Storage.perform tb id now c).1, table (Storage.perform tb id now c).2) := by
  cases c <;> rfl

lemma perform_keyspace (s : KeyspaceStore) (id : String) (now : Timestamp) (c : Call) :
    Storage.perform (keyspace s) id now c
      = ((Storage.perform s id now c).1, keyspace (Storage.perform s id now c).2) := by
  cases c <;> rfl

/-- Every storage call does what it may, if a new task has a new id and a lease an owner. -/
theorem Holds.perform (h : s.Holds L) (id : String) (now : Timestamp) (c : Call)
    (hnew : c.isEnqueue = true → L.get? id = none) (howner : c ≠ .dequeue "") :
    ∃ L', (Storage.perform s id now c).2.Holds L' ∧
      L.May id now c (Storage.perform s id now c).1 L' := by
  cases s with
  | table tb =>
      obtain ⟨hresult, hstore⟩ := Table.Holds.perform h id now c hnew
      rw [perform_table, hresult]
      exact ⟨_, hstore, L.may_perform id now c⟩
  | keyspace s =>
      obtain ⟨lost, hkeeps⟩ := h
      obtain ⟨lost', L', hkeeps', hmay, -⟩ := hkeeps.perform id now c hnew howner
      rw [perform_keyspace]
      exact ⟨L', ⟨lost', hkeeps'⟩, hmay⟩

end TaskStore

/-! ### Service calls -/

namespace ServiceCall

/-- The storage call that a service call makes. -/
def toCall (settings : QueueSettings) : ServiceCall → Call
  | enqueue type payload metadata => .enqueue type payload metadata
  | dequeue worker => .dequeue worker
  | ack id success result => .ack id success result
  | list status => .list (Status.ofName? status)
  | get id => .get id
  | heartbeat id => .heartbeat id
  | recover => .recover settings.visibilityTimeout settings.maxAttempts

/-- Whether a call stores a new task. -/
def isEnqueue : ServiceCall → Bool
  | enqueue _ _ _ => true
  | _ => false

/-- The task that a call leases. -/
def leased? : ServiceCall → Except TaskError Outcome → Option Task
  | dequeue _, .ok (.found t) => t
  | _, _ => none

lemma isEnqueue_toCall (settings : QueueSettings) (call : ServiceCall) :
    (call.toCall settings).isEnqueue = call.isEnqueue := by
  cases call <;> rfl

lemma leased?_toCall (settings : QueueSettings) (call : ServiceCall)
    (r : Except StoreError Outcome) :
    call.leased? (r.mapError StoreError.toTaskError) = (call.toCall settings).leased? r := by
  cases call with
  | dequeue worker =>
      cases r with
      | error e => rfl
      | ok o => cases o <;> rfl
  | _ => rfl

end ServiceCall

/-- A call on a service, with the id of a task that it may create. -/
structure TimedServiceCall where
  id : String
  /-- When a dequeue sweeps. -/
  swept : Timestamp
  /-- When the call does the rest. -/
  now : Timestamp
  call : ServiceCall
deriving DecidableEq, Repr

namespace Service

variable {σ : Type}

/-! ### Sinks leave the store alone -/

/-- Two services have the same store and the same settings. -/
def Alike (s s' : Service σ) : Prop := s'.store = s.store ∧ s'.settings = s.settings

lemma alike_foldl {α : Type} {f : Service σ → α → Service σ} (h : ∀ s a, Alike s (f s a))
    (l : List α) (s : Service σ) : Alike s (l.foldl f s) := by
  induction l generalizing s with
  | nil => exact ⟨rfl, rfl⟩
  | cons a l ih =>
      obtain ⟨hstore, hsettings⟩ := ih (f s a)
      exact ⟨hstore.trans (h s a).1, hsettings.trans (h s a).2⟩

lemma alike_noteRequeued (s : Service σ) (now : Timestamp) (r : SweepReport) :
    Alike s (s.noteRequeued now r) := by
  unfold noteRequeued
  split
  · exact ⟨rfl, rfl⟩
  · refine alike_foldl (fun _ _ => ?_) r.requeued (s.count .retried r.requeued.length)
    exact ⟨rfl, rfl⟩

lemma alike_noteFailed (s : Service σ) (now : Timestamp) (r : SweepReport) :
    Alike s (s.noteFailed now r) := by
  unfold noteFailed
  split
  · exact ⟨rfl, rfl⟩
  · refine alike_foldl (fun _ _ => ?_) r.failed (s.count .failedTimeout r.failed.length)
    exact ⟨rfl, rfl⟩

lemma alike_note (s : Service σ) (now : Timestamp) (r : SweepReport) :
    Alike s ((s.noteRequeued now r).noteFailed now r) := by
  obtain ⟨hstore, hsettings⟩ := alike_noteRequeued s now r
  obtain ⟨hstore', hsettings'⟩ := alike_noteFailed (s.noteRequeued now r) now r
  exact ⟨hstore'.trans hstore, hsettings'.trans hsettings⟩

/-- What follows a call that succeeds changes neither its answer nor the store. -/
lemma whenOk_eq {α : Type} (r : Except TaskError α × Service σ) {f : α → Service σ → Service σ}
    (h : ∀ a s, Alike s (f a s)) : (whenOk r f).1 = r.1 ∧ Alike r.2 (whenOk r f).2 := by
  obtain ⟨_ | a, s⟩ := r
  · exact ⟨rfl, rfl, rfl⟩
  · exact ⟨rfl, h a s⟩

/-! ### Calls of a run -/

/-- One call of a run. A dequeue reads the clock for its sweep, and again for the lease. -/
def serve [Storage σ] (s : Service σ) (e : TimedServiceCall) :
    Except TaskError Outcome × Service σ :=
  match e.call with
  | .dequeue worker =>
    if Text.isBlank worker then (.error (.invalidArgument "worker_id must not be empty"), s)
    else
      match s.recover e.swept with
      | (.error err, s) => (.error err, s)
      | (.ok _, s) => mapResult .found (s.claim e.now worker)
  | call => s.perform e.id e.now call

/-- Where the clock stands still, a call of a run is the call of the service. -/
lemma serve_eq_perform [Storage σ] (s : Service σ) {e : TimedServiceCall} (h : e.swept = e.now) :
    s.serve e = s.perform e.id e.now e.call := by
  obtain ⟨id, swept, now, call⟩ := e
  obtain rfl : swept = now := h
  cases call with
  | dequeue worker =>
      simp only [serve, perform, dequeue]
      split
      · rfl
      · rcases s.recover swept with ⟨_ | r, s'⟩ <;> rfl
  | _ => rfl

/-- The service after the sweep of a dequeue; other calls do not sweep first. -/
def prepared [Storage σ] (s : Service σ) (e : TimedServiceCall) : Service σ :=
  match e.call with
  | .dequeue worker => if Text.isBlank worker then s else (s.recover e.swept).2
  | _ => s

variable [Storage σ] {P : σ → Prop} {s : Service σ}

/-- What every storage call keeps of a store, every call of a run keeps. -/
lemma store_serve (hP : ∀ x id now c, P x → P (Storage.perform x id now c).2) (h : P s.store)
    (e : TimedServiceCall) : P (s.serve e).2.store := by
  have hone : ∀ {α : Type} {s : Service σ} {x : Except StoreError α × σ}
      {f : α → Service σ → Service σ} (id : String) (now : Timestamp) (c : Call),
      P s.store → (∀ a s, Alike s (f a s)) → x.2 = (Storage.perform s.store id now c).2 →
        P (whenOk (s.lift x) f).2.store := by
    intro α s x f id now c hs hf hx
    rw [(whenOk_eq (s.lift x) hf).2.1]
    change P x.2
    rw [hx]
    exact hP _ id now c hs
  have hrecover : ∀ now, P (s.recover now).2.store := fun now =>
    hone "" now (.recover _ _) h (fun r s => alike_note s now r) rfl
  obtain ⟨id, swept, now, call⟩ := e
  cases call with
  | enqueue type payload metadata =>
      exact hone id now (.enqueue type payload metadata) h (fun _ _ => ⟨rfl, rfl⟩) rfl
  | dequeue worker =>
      simp only [serve]
      split_ifs
      · exact h
      · have hswept := hrecover swept
        rcases hsweep : s.recover swept with ⟨err | r, s'⟩
        all_goals rw [hsweep] at hswept
        · exact hswept
        · refine hone "" now (.dequeue worker) hswept ?_ rfl
          rintro (_ | t) _ <;> exact ⟨rfl, rfl⟩
  | ack taskId success result =>
      exact hone "" now (.ack taskId success result) h (fun _ _ => ⟨rfl, rfl⟩) rfl
  | list status =>
      have hlist : ∀ filter, P (Storage.list s.store filter).2 :=
        fun filter => hP _ "" 0 (.list filter) h
      simp only [serve, perform, list]
      split_ifs
      · exact hlist none
      · cases Status.parse status with
        | error e => exact h
        | ok status => exact hlist (some status)
  | get taskId =>
      have hget : P (Storage.get s.store taskId).2 := hP _ "" 0 (.get taskId) h
      simp only [serve, perform, get, lift]
      rcases hx : Storage.get s.store taskId with ⟨_ | _ | _, _⟩ <;> rw [hx] at hget <;> exact hget
  | heartbeat taskId => exact hone "" now (.heartbeat taskId) h (fun _ _ => ⟨rfl, rfl⟩) rfl
  | recover => exact hrecover now

end Service

/-! ### Service calls on a ledger -/

namespace Service

variable {s : Service TaskStore} {L : Ledger} {id : String} {now : Timestamp}

/-- A service answers, and leaves of the tasks, what a storage call may. -/
def Serves (s : Service TaskStore) (L : Ledger) (id : String) (now : Timestamp) (c : Call)
    (out : Except TaskError Outcome × Service TaskStore) : Prop :=
  ∃ r L', out.1 = r.mapError StoreError.toTaskError ∧ out.2.settings = s.settings ∧
    out.2.store.Holds L' ∧ L.May id now c r L'

/-- A refused call leaves the store as it was. -/
lemma serves_error (s : Service TaskStore) (h : s.store.Holds L) (c : Call) (e : StoreError) :
    s.Serves L id now c (.error e.toTaskError, s) := ⟨.error e, L, rfl, rfl, h, .failed c e⟩

lemma mapError_map {ε ε' α β : Type} (r : Except ε α) (f : α → β) (g : ε → ε') :
    (r.map f).mapError g = (r.mapError g).map f := by
  cases r <;> rfl

lemma map_eq_error {ε α β : Type} {r : Except ε α} {f : α → β} {e : ε} :
    r.map f = .error e ↔ r = .error e := by
  cases r <;> simp [Except.map]

lemma mapError_eq_ok {ε ε' α : Type} {r : Except ε α} {g : ε → ε'} {a : α} :
    r.mapError g = .ok a ↔ r = .ok a := by
  cases r <;> simp [Except.mapError]

/-- A storage call for the callers of the service, with its sinks, does what it may. -/
lemma serves_whenOk (h : s.store.Holds L) (c : Call)
    (hnew : c.isEnqueue = true → L.get? id = none) (howner : c ≠ .dequeue "") {α : Type}
    {x : Except StoreError α × TaskStore} {g : α → Outcome}
    {f : α → Service TaskStore → Service TaskStore} (hf : ∀ a s, Alike s (f a s))
    (hx : Storage.perform s.store id now c = mapResult g x) :
    s.Serves L id now c (mapResult g (whenOk (s.lift x) f)) := by
  obtain ⟨L', hstore, hmay⟩ := h.perform id now c hnew howner
  obtain ⟨hanswer, hstore', hsettings⟩ := whenOk_eq (s.lift x) hf
  rw [hx] at hstore hmay
  refine ⟨_, L', ?_, hsettings, ?_, hmay⟩
  · exact (congrArg (Except.map g) hanswer).trans (mapError_map x.1 g _).symm
  · change ((whenOk (s.lift x) f).2.store).Holds L'
    rw [hstore']
    exact hstore

/-- A sweep does what it may. -/
lemma serves_recover (h : s.store.Holds L) (id : String) (now : Timestamp) :
    s.Serves L id now (.recover s.settings.visibilityTimeout s.settings.maxAttempts)
      (mapResult .swept (s.recover now)) := by
  exact serves_whenOk h (.recover _ _) (by simp [Call.isEnqueue]) (by simp)
    (fun r s => alike_note s now r) rfl

/-- A lease does what it may. -/
lemma serves_claim (h : s.store.Holds L) (id : String) (now : Timestamp) {worker : String}
    (hworker : worker ≠ "") :
    s.Serves L id now (.dequeue worker) (mapResult .found (s.claim now worker)) := by
  refine serves_whenOk h (.dequeue worker) (by simp [Call.isEnqueue]) ?_ ?_ rfl
  · exact fun hc => hworker (Call.dequeue.inj hc)
  · rintro (_ | t) s <;> exact ⟨rfl, rfl⟩

/-- Looking a task up does what it may; a task that is not there is an error. -/
lemma serves_get (h : s.store.Holds L) (id : String) (now : Timestamp) (taskId : String) :
    s.Serves L id now (.get taskId) (s.perform id now (.get taskId)) := by
  obtain ⟨L', hstore, hmay⟩ := h.perform id now (.get taskId)
    (by simp [Call.isEnqueue]) (by simp)
  rw [show Storage.perform s.store id now (.get taskId)
    = mapResult .found (Storage.get s.store taskId) from rfl] at hstore hmay
  simp only [perform, get, lift]
  rcases hget : Storage.get s.store taskId with ⟨e | _ | t, store⟩
  all_goals rw [hget] at hstore hmay
  · exact ⟨_, L', rfl, rfl, hstore, hmay⟩
  · refine ⟨.error (.notFound taskId), L', rfl, rfl, hstore, ?_⟩
    rw [hmay.eq_of_get]
    exact .failed _ _
  · exact ⟨_, L', rfl, rfl, hstore, hmay⟩

/-- Listing does what it may, or refuses a status that is none. -/
lemma serves_list (h : s.store.Holds L) (id : String) (now : Timestamp) (status : String) :
    s.Serves L id now (.list (Status.ofName? status)) (s.perform id now (.list status)) := by
  -- the empty status is the name of none
  have hlist : ∀ filter, s.Serves L id now (.list filter)
      (mapResult .tasks (s.lift (Storage.list s.store filter))) := by
    intro filter
    obtain ⟨L', hstore, hmay⟩ := h.perform id now (.list filter)
      (by simp [Call.isEnqueue]) (by simp)
    exact ⟨_, L', (mapError_map _ _ _).symm, rfl, hstore, hmay⟩
  simp only [perform, list]
  split_ifs with hempty
  · rw [hempty]
    exact hlist none
  rw [Status.parse]
  cases Status.ofName? status with
  | none => exact s.serves_error h _ (.task _)
  | some status => exact hlist (some status)

/-- A call that is no dequeue does what its storage call may. -/
lemma serves_perform (h : s.store.Holds L) (id : String) (now : Timestamp) {call : ServiceCall}
    (hnew : call.isEnqueue = true → L.get? id = none) (hcall : ∀ worker, call ≠ .dequeue worker) :
    s.Serves L id now (call.toCall s.settings) (s.perform id now call) := by
  cases call with
  | enqueue type payload metadata =>
      exact serves_whenOk h (.enqueue type payload metadata) hnew (by simp)
        (fun _ _ => ⟨rfl, rfl⟩) rfl
  | dequeue worker => exact absurd rfl (hcall worker)
  | ack taskId success result =>
      exact serves_whenOk h (.ack taskId success result) (by simp [Call.isEnqueue]) (by simp)
        (fun _ _ => ⟨rfl, rfl⟩) rfl
  | list status => exact serves_list h id now status
  | get taskId => exact serves_get h id now taskId
  | heartbeat taskId =>
      exact serves_whenOk h (.heartbeat taskId) (by simp [Call.isEnqueue]) (by simp)
        (fun _ _ => ⟨rfl, rfl⟩) rfl
  | recover => exact serves_recover h id now

/-- Every call of a run does what its storage call may, and a dequeue what a sweep may before it. -/
theorem serves_serve (h : s.store.Holds L) (e : TimedServiceCall)
    (hnew : e.call.isEnqueue = true → L.get? e.id = none) :
    ∃ r M, (s.prepared e).settings = s.settings ∧ (s.prepared e).store.Holds M ∧
      L.May e.id e.swept (.recover s.settings.visibilityTimeout s.settings.maxAttempts) r M ∧
      (s.prepared e).Serves M e.id e.now (e.call.toCall s.settings) (s.serve e) := by
  -- without a sweep nothing happens before the call
  have hstill : ∃ r, L.May e.id e.swept
      (.recover s.settings.visibilityTimeout s.settings.maxAttempts) r L :=
    ⟨_, .failed _ (.contention "")⟩
  obtain ⟨id, swept, now, call⟩ := e
  by_cases hcall : ∀ worker, call ≠ .dequeue worker
  · obtain ⟨r, hmay⟩ := hstill
    have hserve : s.serve ⟨id, swept, now, call⟩ = s.perform id now call := by
      cases call with
      | dequeue worker => exact absurd rfl (hcall worker)
      | _ => rfl
    have hprepared : s.prepared ⟨id, swept, now, call⟩ = s := by
      cases call with
      | dequeue worker => exact absurd rfl (hcall worker)
      | _ => rfl
    rw [hserve, hprepared]
    exact ⟨r, L, rfl, h, hmay, serves_perform h id now hnew hcall⟩
  push Not at hcall
  obtain ⟨worker, rfl⟩ := hcall
  simp only [prepared, serve, ServiceCall.toCall]
  split_ifs with hblank
  · obtain ⟨r, hmay⟩ := hstill
    exact ⟨r, L, rfl, h, hmay, s.serves_error h _ (.task _)⟩
  have hworker : worker ≠ "" := by
    rintro rfl
    exact hblank (by decide)
  obtain ⟨r, M, hanswer, hsettings, hstore, hmay⟩ := serves_recover h id swept
  refine ⟨r, M, hsettings, hstore, hmay, ?_⟩
  rcases hsweep : s.recover swept with ⟨err | report, s'⟩
  all_goals rw [hsweep] at hanswer hstore
  · obtain ⟨err', rfl⟩ : ∃ err' : StoreError, err'.toTaskError = err := by
      cases r with
      | error err' => exact ⟨err', (Except.error.inj hanswer).symm⟩
      | ok o => exact absurd hanswer (by simp [mapResult, Except.map, Except.mapError])
    exact s'.serves_error hstore _ err'
  · exact serves_claim hstore id now hworker

end Service

end LeaseQueue
