/-
A service whose store never fails answers as it would on a ledger.

* `TaskStore.IsFresh`: a store of either kind without tasks and without faults;
* `TaskStore.Mirrors`, `TaskStore.Mirrors.perform`: a store that answers every call as a ledger;
* `Service.Mirrors`, `Service.Reflects`: services on both, and answers of both;
* `Service.Mirrors.recover` to `Service.Mirrors.serve`: every call of a service reflects the call on
  the ledger;
* `Service.mirrors_after`: so does every run that names each new task anew;
* `Service.run_induction`: induction over such runs.
-/
import LeaseQueue.Proofs.Service.History

namespace LeaseQueue

/-! ### Stores -/

namespace TaskStore

/-- A store holds no task, and none of its reads and commits fails. -/
inductive IsFresh : TaskStore → Prop where
  | table : IsFresh (table .empty)
  | keyspace (name : String) : IsFresh (keyspace (.empty name))

/-- A store keeps the tasks of a ledger, with complete indexes and without faults to come. -/
def Mirrors : TaskStore → Ledger → Prop
  | table tb, L => tb.Holds L
  | keyspace s, L => s.Holds L

variable {s : TaskStore} {L : Ledger}

lemma IsFresh.isEmpty (h : s.IsFresh) : s.IsEmpty := by
  cases h with
  | table => exact .table
  | keyspace name => exact .keyspace name rfl

lemma IsFresh.mirrors (h : s.IsFresh) : s.Mirrors .empty := by
  cases h with
  | table => exact Table.holds_empty
  | keyspace name => exact KeyspaceStore.holds_empty name

lemma Mirrors.holds (h : s.Mirrors L) : s.Holds L := by
  cases s with
  | table tb => exact h
  | keyspace s =>
      have hraces : s.shared.plan.races = [] := by rw [h.plan]; rfl
      exact ⟨∅, h.keyspace, hraces⟩

lemma Mirrors.task?_eq (h : s.Mirrors L) (id : String) : s.task? id = L.get? id :=
  h.holds.task?_eq id

/-- Every storage call has the result that it has on the ledger, if a new task has a new id and a
lease an owner. -/
theorem Mirrors.perform (h : s.Mirrors L) (id : String) (now : Timestamp) (c : Call)
    (hnew : c.isEnqueue = true → L.get? id = none) (howner : c ≠ .dequeue "") :
    (Storage.perform s id now c).1 = (Storage.perform L id now c).1 ∧
      (Storage.perform s id now c).2.Mirrors (Storage.perform L id now c).2 := by
  cases s with
  | table tb =>
      rw [perform_table]
      exact Table.Holds.perform h id now c hnew
  | keyspace s =>
      rw [perform_keyspace]
      exact KeyspaceStore.Holds.perform h id now c hnew howner

end TaskStore

/-! ### Services -/

namespace Service

variable {s s' : Service TaskStore} {m m' : Service Ledger} {id : String} {now : Timestamp}
  {α β : Type}

/-- A service keeps the tasks of a service on a ledger, under the same settings. -/
structure Mirrors (s : Service TaskStore) (m : Service Ledger) : Prop where
  store : s.store.Mirrors m.store
  settings : m.settings = s.settings

/-- Two calls have one answer, and leave services that keep the same tasks. -/
structure Reflects (x : Except TaskError α × Service TaskStore)
    (y : Except TaskError α × Service Ledger) : Prop where
  answer : x.1 = y.1
  mirrors : x.2.Mirrors y.2

lemma Mirrors.alike (h : s.Mirrors m) (hs : Alike s s') (hm : Alike m m') : s'.Mirrors m' where
  store := by
    rw [hs.1, hm.1]
    exact h.store
  settings := by rw [hs.2, hm.2, h.settings]

/-- A refused call leaves both services as they were. -/
lemma Mirrors.refused (h : s.Mirrors m) (e : TaskError) :
    Reflects (.error e, s) ((.error e, m) : Except TaskError α × Service Ledger) := ⟨rfl, h⟩

lemma Reflects.map {x : Except TaskError α × Service TaskStore}
    {y : Except TaskError α × Service Ledger} (h : Reflects x y) (f : α → β) :
    Reflects (mapResult f x) (mapResult f y) :=
  ⟨congrArg (Except.map f) h.answer, h.mirrors⟩

/-- What the sinks do afterwards does not show. -/
lemma Reflects.whenOk {x : Except TaskError α × Service TaskStore}
    {y : Except TaskError α × Service Ledger} (h : Reflects x y)
    {f : α → Service TaskStore → Service TaskStore} {g : α → Service Ledger → Service Ledger}
    (hf : ∀ a s, Alike s (f a s)) (hg : ∀ a m, Alike m (g a m)) :
    Reflects (whenOk x f) (whenOk y g) := by
  obtain ⟨hx, hx'⟩ := whenOk_eq x hf
  obtain ⟨hy, hy'⟩ := whenOk_eq y hg
  exact ⟨by rw [hx, hy, h.answer], h.mirrors.alike hx' hy'⟩

lemma map_injective {ε : Type} {f : α → β} (hf : Function.Injective f) :
    Function.Injective (Except.map f : Except ε α → Except ε β) := by
  rintro (e | a) (e' | b) h
  · exact congrArg Except.error (Except.error.inj h)
  · cases h
  · cases h
  · exact congrArg Except.ok (hf (Except.ok.inj h))

/-- A storage call for the callers of the service reflects the one on the ledger. -/
lemma Mirrors.lift (h : s.Mirrors m) (id : String) (now : Timestamp) (c : Call)
    (hnew : c.isEnqueue = true → m.store.get? id = none) (howner : c ≠ .dequeue "")
    {wrap : α → Outcome} (hwrap : Function.Injective wrap)
    {x : Except StoreError α × TaskStore} {y : Except StoreError α × Ledger}
    (hx : Storage.perform s.store id now c = mapResult wrap x)
    (hy : Storage.perform m.store id now c = mapResult wrap y) :
    Reflects (s.lift x) (m.lift y) := by
  obtain ⟨hresult, hstore⟩ := h.store.perform id now c hnew howner
  rw [hx, hy] at hresult hstore
  have hanswer : x.1 = y.1 := map_injective hwrap hresult
  exact ⟨congrArg (Except.mapError StoreError.toTaskError) hanswer, hstore, h.settings⟩

lemma task_injective : Function.Injective Outcome.task := fun _ _ => Outcome.task.inj

lemma found_injective : Function.Injective Outcome.found := fun _ _ => Outcome.found.inj

/-! ### Calls -/

namespace Mirrors

lemma enqueue (h : s.Mirrors m) (hnew : m.store.get? id = none) (now : Timestamp)
    (type payload : String) (metadata : Metadata) :
    Reflects (s.enqueue id now type payload metadata)
      (m.enqueue id now type payload metadata) := by
  have hlift := h.lift id now (.enqueue type payload metadata) (fun _ => hnew) (by simp)
    task_injective rfl rfl
  exact hlift.whenOk (fun _ _ => ⟨rfl, rfl⟩) (fun _ _ => ⟨rfl, rfl⟩)

lemma recover (h : s.Mirrors m) (now : Timestamp) : Reflects (s.recover now) (m.recover now) := by
  have hlift := h.lift "" now (.recover _ _) (by simp [Call.isEnqueue]) (by simp)
    (fun _ _ => Outcome.swept.inj)
    (x := Storage.recover s.store now s.settings.visibilityTimeout s.settings.maxAttempts)
    (y := Storage.recover m.store now s.settings.visibilityTimeout s.settings.maxAttempts) rfl rfl
  rw [Service.recover, Service.recover, h.settings]
  exact hlift.whenOk (fun r s => alike_note s now r) (fun r m => alike_note m now r)

lemma claim (h : s.Mirrors m) (now : Timestamp) {worker : String} (hworker : worker ≠ "") :
    Reflects (s.claim now worker) (m.claim now worker) := by
  have hlift := h.lift "" now (.dequeue worker) (by simp [Call.isEnqueue])
    (fun hc => hworker (Call.dequeue.inj hc)) found_injective
    (x := Storage.dequeue s.store now worker) (y := Storage.dequeue m.store now worker) rfl rfl
  refine hlift.whenOk ?_ ?_
  all_goals rintro (_ | t) _ <;> exact ⟨rfl, rfl⟩

lemma ack (h : s.Mirrors m) (now : Timestamp) (id : String) (success : Bool)
    (result : Option String) :
    Reflects (s.ack now id success result) (m.ack now id success result) := by
  have hlift := h.lift "" now (.ack id success result) (by simp [Call.isEnqueue])
    (by simp) task_injective rfl rfl
  exact hlift.whenOk (fun _ _ => ⟨rfl, rfl⟩) (fun _ _ => ⟨rfl, rfl⟩)

lemma list (h : s.Mirrors m) (status : String) : Reflects (s.list status) (m.list status) := by
  have hlift : ∀ filter, Reflects (s.lift (Storage.list s.store filter))
      (m.lift (Storage.list m.store filter)) := fun filter =>
    h.lift "" 0 (.list filter) (by simp [Call.isEnqueue]) (by simp)
      (fun _ _ => Outcome.tasks.inj) rfl rfl
  simp only [Service.list]
  split_ifs with hempty
  · exact hlift none
  · cases Status.parse status with
    | error e => exact h.refused e
    | ok status => exact hlift (some status)

lemma get (h : s.Mirrors m) (id : String) : Reflects (s.get id) (m.get id) := by
  obtain ⟨hanswer, hmirrors⟩ := h.lift "" 0 (.get id) (by simp [Call.isEnqueue])
    (by simp) found_injective (x := Storage.get s.store id) (y := Storage.get m.store id) rfl rfl
  simp only [Service.get]
  rcases hs : s.lift (Storage.get s.store id) with ⟨e | _ | t, s'⟩
  all_goals
    rcases hm : m.lift (Storage.get m.store id) with ⟨e' | _ | t', m'⟩
    all_goals
      rw [hs, hm] at hanswer hmirrors
      cases hanswer
    exact ⟨rfl, hmirrors⟩

lemma heartbeat (h : s.Mirrors m) (now : Timestamp) (id : String) :
    Reflects (s.heartbeat now id) (m.heartbeat now id) := by
  have hlift := h.lift "" now (.heartbeat id) (by simp [Call.isEnqueue])
    (by simp) task_injective rfl rfl
  exact hlift.whenOk (fun _ _ => ⟨rfl, rfl⟩) (fun _ _ => ⟨rfl, rfl⟩)

/-- Every call of a run reflects the one on the ledger, if a new task has a new id. -/
theorem serve (h : s.Mirrors m) (e : TimedServiceCall)
    (hnew : e.call.isEnqueue = true → m.store.get? e.id = none) :
    Reflects (s.serve e) (m.serve e) := by
  obtain ⟨id, swept, now, call⟩ := e
  cases call with
  | enqueue type payload metadata => exact (h.enqueue (hnew rfl) now type payload metadata).map _
  | dequeue worker =>
      simp only [Service.serve]
      split_ifs with hblank
      · exact h.refused _
      have hworker : worker ≠ "" := by
        rintro rfl
        exact hblank (by decide)
      obtain ⟨hanswer, hmirrors⟩ := h.recover swept
      rcases hs : s.recover swept with ⟨e | r, s'⟩ <;>
        rcases hm : m.recover swept with ⟨e' | r', m'⟩
      all_goals rw [hs, hm] at hanswer hmirrors
      · exact ⟨congrArg Except.error (Except.error.inj hanswer), hmirrors⟩
      · cases hanswer
      · cases hanswer
      · exact (claim hmirrors now hworker).map _
  | ack taskId success result => exact (h.ack now taskId success result).map _
  | list status => exact (h.list status).map _
  | get taskId => exact (h.get taskId).map _
  | heartbeat taskId => exact (h.heartbeat now taskId).map _
  | recover => exact (h.recover now).map _

lemma dequeue (h : s.Mirrors m) (now : Timestamp) (worker : String) :
    Reflects (s.dequeue now worker) (m.dequeue now worker) := by
  have hserve := h.serve ⟨"", now, now, .dequeue worker⟩ (by simp [ServiceCall.isEnqueue])
  rw [serve_eq_perform s rfl, serve_eq_perform m rfl] at hserve
  exact ⟨map_injective found_injective hserve.answer, hserve.mirrors⟩

end Mirrors

/-! ### Runs -/

open TimedServiceCall

/-- The service on a ledger without tasks. -/
def onLedger (s : Service TaskStore) : Service Ledger := ⟨.empty, s.settings, s.metrics, s.audit⟩

variable {history : List TimedServiceCall}

/-- What a run leads to is what the service keeps. -/
lemma Mirrors.reaches (h : (s.after history).Mirrors m) (hfresh : s.store.IsFresh)
    (hids : (createdIds history).Nodup) : s.Reaches 4294967295 history m.store := by
  obtain ⟨L, hreach⟩ := Service.reaches hfresh.isEmpty (by decide) (maxAttempts_le _) hids
  have hL : L = m.store := by
    refine Ledger.ext_get? fun id => ?_
    rw [← hreach.holds.task?_eq, h.store.task?_eq]
  exact hL ▸ hreach

/-- A call that creates a task under a new id finds none there. -/
lemma Mirrors.get?_eq_none (h : (s.after history).Mirrors m) (hfresh : s.store.IsFresh)
    (hids : (createdIds history).Nodup) {e : TimedServiceCall}
    (hnew : e.call.isEnqueue = true → e.id ∉ createdIds history) :
    e.call.isEnqueue = true → m.store.get? e.id = none := by
  intro he
  rw [Option.eq_none_iff_forall_ne_some]
  intro t ht
  exact hnew he ((h.reaches hfresh hids).created ht)

/-- From a fresh store, every run that names each new task anew leaves the tasks that it leaves on
the ledger. -/
theorem mirrors_after (hfresh : s.store.IsFresh) (hids : (createdIds history).Nodup) :
    (s.after history).Mirrors (s.onLedger.after history) := by
  induction history using List.reverseRecOn with
  | nil => exact ⟨hfresh.mirrors, rfl⟩
  | append_singleton history e ih =>
      obtain ⟨hbefore, hnew⟩ := nodup_created_append_singleton hids
      have hmirrors := ih hbefore
      rw [after_append_singleton, after_append_singleton]
      exact (hmirrors.serve e (hmirrors.get?_eq_none hfresh hbefore hnew)).mirrors

/-- What holds before a run, and after one more call on a service that keeps what the ledger keeps,
holds after every run from a fresh store that names each new task anew. -/
@[elab_as_elim]
theorem run_induction {P : List TimedServiceCall → Prop} (hfresh : s.store.IsFresh)
    (history : List TimedServiceCall) (hids : (createdIds history).Nodup) (start : P [])
    (next : ∀ history e, (createdIds history).Nodup → (createdIds (history ++ [e])).Nodup →
      (s.after history).Mirrors (s.onLedger.after history) →
      (e.call.isEnqueue = true → (s.onLedger.after history).store.get? e.id = none) →
      P history → P (history ++ [e])) : P history := by
  induction history using List.reverseRecOn with
  | nil => exact start
  | append_singleton history e ih =>
      obtain ⟨hbefore, hnew⟩ := nodup_created_append_singleton hids
      have hmirrors := mirrors_after hfresh hbefore
      exact next history e hbefore hids hmirrors (hmirrors.get?_eq_none hfresh hbefore hnew)
        (ih hbefore)

end Service

end LeaseQueue
