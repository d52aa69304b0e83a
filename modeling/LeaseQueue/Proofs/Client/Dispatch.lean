/-
Dispatching shows the same near and far.

* `StoredTransport`: a transport with a store behind it, which workers call directly;
* `DispatchCall`, `TimedDispatch`, `Dispatcher.perform`, `Dispatcher.views`: what dispatchers and
  workers do, as data, and what they are shown;
* `DispatchCall.toCall`, `DispatchCall.view`: what a dispatcher shows is the result of one storage
  call;
* `Embedded.perform_eq`, `Remote.perform_view`: so it is on either transport, on the remote one if
  the messages have frames and the tasks survive the wire;
* `Remote.AllFit`, `Dispatcher.views_eq`: two stores without tasks show the same for ever.
-/
import LeaseQueue.Client.Dispatcher
import LeaseQueue.Proofs.Client.Remote

namespace LeaseQueue

/-! ### Calls of dispatchers and workers -/

/-- A transport with a store behind it, which workers call directly. -/
class StoredTransport (τ : Type) extends Transport τ where
  onStore : τ → (id : String) → (now : Timestamp) → Call → Except StoreError Outcome × τ

instance {σ : Type} [Storage σ] : StoredTransport (Embedded σ) where
  onStore e id now c :=
    ((Storage.perform e.store id now c).1, ⟨(Storage.perform e.store id now c).2⟩)

instance {σ : Type} [Storage σ] : StoredTransport (Remote σ) where
  onStore r id now c :=
    ((Storage.perform r.service.store id now c).1,
      ⟨{ r.service with store := (Storage.perform r.service.store id now c).2 }⟩)

/-- A call of a dispatcher, or of a worker on the store. -/
inductive DispatchCall where
  | runTask (agent action : String) (payload : SortedMap Json)
  | listTasks (status : Option Status)
  | acknowledge (id : String) (success : Bool) (result : Option String)
  | onStore (c : Call)

/-- A call with its time and the id of a task that it may create. -/
structure TimedDispatch where
  id : String
  now : Timestamp
  call : DispatchCall

/-- What a call shows. -/
inductive DispatchView where
  | task (r : Except ClientError DispatchedTask)
  | tasks (r : Except ClientError (List DispatchedTask))
  | outcome (r : Except StoreError Outcome)

namespace Dispatcher

variable {τ : Type} [StoredTransport τ]

/-- One call and what it shows. -/
def perform (t : τ) (e : TimedDispatch) : DispatchView × τ :=
  match e.call with
  | .runTask agent action payload =>
    let x := runTask t e.id e.now agent action payload; (.task x.1, x.2)
  | .listTasks status => let x := listTasks t e.now status; (.tasks x.1, x.2)
  | .acknowledge id success result =>
    let x := acknowledge t e.now id success result; (.task x.1, x.2)
  | .onStore c => let x := StoredTransport.onStore t e.id e.now c; (.outcome x.1, x.2)

/-- What calls show, one after the other. -/
def views : τ → List TimedDispatch → List DispatchView
  | _, [] => []
  | t, e :: calls => (perform t e).1 :: views (perform t e).2 calls

end Dispatcher

namespace DispatchCall

/-- The storage call behind a call. -/
def toCall : DispatchCall → Call
  | runTask agent action payload =>
    let e := Envelope.structured agent action payload
    .enqueue Dispatcher.taskType e.encode e.metadata
  | listTasks status => .list status
  | acknowledge id success result => .ack id success (result.filter (· ≠ ""))
  | onStore c => c

/-- What a call shows of the result of its storage call. -/
def view (call : DispatchCall) (r : Except StoreError Outcome) : DispatchView :=
  match call with
  | runTask _ _ _ | acknowledge _ _ _ =>
    .task (((r.bind Outcome.asTask).mapError .ofStoreError).map .ofTask)
  | listTasks _ => .tasks (((r.bind Outcome.asTasks).mapError .ofStoreError).map (List.map .ofTask))
  | onStore _ => .outcome r

/-- The call over the wire that a dispatcher makes. -/
def toClientCall? : DispatchCall → Option ClientCall
  | runTask agent action payload =>
    let e := Envelope.structured agent action payload
    some (.enqueue Dispatcher.taskType e.encode e.metadata)
  | listTasks status => some (.list status)
  | acknowledge id success result => some (.ack id success result)
  | onStore _ => none

end DispatchCall

/-- Whether a call stores a new task. -/
def DispatchCall.isEnqueue (call : DispatchCall) : Bool := call.toCall.isEnqueue

/-! ### Near -/

lemma mapResult_eq {ε α β σ : Type} (f : α → β) (x : Except ε α × σ) :
    mapResult f x = (x.1.map f, x.2) := rfl

lemma bind_asTask (r : Except StoreError Task) : (r.map Outcome.task).bind Outcome.asTask = r := by
  cases r <;> rfl

lemma bind_asTasks (r : Except StoreError (List Task)) :
    (r.map Outcome.tasks).bind Outcome.asTasks = r := by
  cases r <;> rfl

/-- On a store of this process a call shows its storage call. -/
theorem Embedded.perform_eq {σ : Type} [Storage σ] (store : σ) (e : TimedDispatch) :
    Dispatcher.perform (Embedded.mk store) e
      = (e.call.view (Storage.perform store e.id e.now e.call.toCall).1,
        ⟨(Storage.perform store e.id e.now e.call.toCall).2⟩) := by
  obtain ⟨id, now, call⟩ := e
  cases call with
  | runTask agent action payload =>
      simp only [DispatchCall.view, DispatchCall.toCall, Storage.perform, mapResult, bind_asTask]
      rfl
  | listTasks status =>
      simp only [DispatchCall.view, DispatchCall.toCall, Storage.perform, mapResult, bind_asTasks]
      rfl
  | acknowledge taskId success result =>
      simp only [DispatchCall.view, DispatchCall.toCall, Storage.perform, mapResult, bind_asTask]
      rfl
  | onStore c => rfl

/-! ### Far -/

namespace Service

variable {σ : Type} [Storage σ]

/-- Listing by the name of a status lists the status. -/
lemma list_name (s : Service σ) (status : Option Status) :
    s.list ((status.map Status.name).getD "") = s.lift (Storage.list s.store status) := by
  cases status with
  | none => rfl
  | some status => cases status <;> rfl

/-- The service answers a dispatcher by a storage call. -/
lemma perform_dispatch (s : Service σ) (e : TimedDispatch) {c : ClientCall}
    (hc : e.call.toClientCall? = some c) :
    (s.perform e.id e.now c.arriving.toServiceCall).1
        = (Storage.perform s.store e.id e.now e.call.toCall).1.mapError StoreError.toTaskError ∧
      (s.perform e.id e.now c.arriving.toServiceCall).2.store
        = (Storage.perform s.store e.id e.now e.call.toCall).2 := by
  have hwhenOk : ∀ (x : Except StoreError Task × σ) {f : Task → Service σ → Service σ},
      (∀ a s, Alike s (f a s)) →
        (mapResult Outcome.task (whenOk (s.lift x) f)).1
            = (x.1.map Outcome.task).mapError StoreError.toTaskError ∧
          (mapResult Outcome.task (whenOk (s.lift x) f)).2.store = x.2 := by
    intro x f hf
    obtain ⟨hanswer, hstore, -⟩ := whenOk_eq (s.lift x) hf
    exact ⟨(congrArg (Except.map Outcome.task) hanswer).trans (mapError_map _ _ _).symm, hstore⟩
  obtain ⟨id, now, call⟩ := e
  cases call with
  | runTask agent action payload =>
      obtain rfl := Option.some.inj hc
      exact hwhenOk (Storage.enqueue s.store id now _ _ _) fun _ _ => ⟨rfl, rfl⟩
  | listTasks status =>
      obtain rfl := Option.some.inj hc
      simp only [ClientCall.arriving, ClientCall.toServiceCall, Service.perform, s.list_name]
      exact ⟨(mapError_map _ _ _).symm, rfl⟩
  | acknowledge taskId success result =>
      obtain rfl := Option.some.inj hc
      exact hwhenOk (Storage.ack s.store now taskId success _) fun _ _ => ⟨rfl, rfl⟩
  | onStore c => cases hc

end Service

namespace Remote

variable {σ : Type} [Storage σ] {s : Service σ} {e : TimedDispatch}

/-- A dispatcher's call over the wire, taken apart, is the storage call behind it. -/
lemma callWith_eq {c : ClientCall} (hc : e.call.toClientCall? = some c)
    (hfits : c.Fits s e.id e.now)
    (htravels : ∀ o, (Storage.perform s.store e.id e.now e.call.toCall).1 = .ok o → o.Travels)
    {α : Type} (wrap : α → Outcome) (take : Outcome → Except ClientError α)
    (htake : ∀ a, take (wrap a) = .ok a) (x : Except StoreError α × σ)
    (hx : Storage.perform s.store e.id e.now e.call.toCall = mapResult wrap x) :
    ∃ s' : Service σ, s'.store = x.2 ∧
      (Remote.mk s).callWith e.id e.now c take = (x.1.mapError .ofStoreError, ⟨s'⟩) := by
  obtain ⟨hanswer, hstore⟩ := s.perform_dispatch e hc
  have htravels' : ∀ o, (s.perform e.id e.now c.arriving.toServiceCall).1 = .ok o →
      o.Travels := by
    intro o ho
    rw [hanswer] at ho
    refine htravels o ?_
    cases hresult : (Storage.perform s.store e.id e.now e.call.toCall).1 with
    | error err =>
        rw [hresult] at ho
        cases ho
    | ok o' =>
        rw [hresult] at ho
        exact congrArg Except.ok (Except.ok.inj ho)
  rw [hx] at hstore hanswer
  refine ⟨_, hstore, ?_⟩
  rw [callWith, perform_eq hfits htravels', hanswer]
  obtain ⟨err | a, x⟩ := x
  · rfl
  · exact congrArg (·, _) (htake a)

/-- Over the wire a call shows its storage call too, if the messages have frames and the tasks
survive the wire. -/
theorem perform_view (hfits : ∀ c, e.call.toClientCall? = some c → c.Fits s e.id e.now)
    (htravels : e.call.toClientCall? ≠ none →
      ∀ o, (Storage.perform s.store e.id e.now e.call.toCall).1 = .ok o → o.Travels) :
    (Dispatcher.perform (Remote.mk s) e).1
        = e.call.view (Storage.perform s.store e.id e.now e.call.toCall).1 ∧
      (Dispatcher.perform (Remote.mk s) e).2.service.store
        = (Storage.perform s.store e.id e.now e.call.toCall).2 := by
  obtain ⟨id, now, call⟩ := e
  cases call with
  | runTask agent action payload =>
      obtain ⟨s', hstore, hcall⟩ := callWith_eq (e := ⟨id, now, .runTask agent action payload⟩)
        rfl (hfits _ rfl) (htravels (Option.some_ne_none _)) Outcome.task takeTask
        (fun _ => rfl) _ rfl
      simp only [Dispatcher.perform, Dispatcher.runTask, mapResult_eq, Transport.enqueue, hcall,
        DispatchCall.view, DispatchCall.toCall, Storage.perform, bind_asTask]
      exact ⟨rfl, hstore⟩
  | listTasks status =>
      -- the id of a new task is of no use to the other calls
      obtain ⟨hrequest, hanswer⟩ := hfits _ rfl
      obtain ⟨s', hstore, hcall⟩ := callWith_eq (e := ⟨"", now, .listTasks status⟩)
        rfl ⟨hrequest, hanswer⟩ (htravels (Option.some_ne_none _)) Outcome.tasks takeTasks
        (fun _ => rfl) _ rfl
      simp only [Dispatcher.perform, Dispatcher.listTasks, mapResult_eq, Transport.list, hcall,
        DispatchCall.view, DispatchCall.toCall, Storage.perform, bind_asTasks]
      exact ⟨rfl, hstore⟩
  | acknowledge taskId success result =>
      obtain ⟨hrequest, hanswer⟩ := hfits _ rfl
      obtain ⟨s', hstore, hcall⟩ :=
        callWith_eq (e := ⟨"", now, .acknowledge taskId success result⟩)
          rfl ⟨hrequest, hanswer⟩ (htravels (Option.some_ne_none _)) Outcome.task takeTask
          (fun _ => rfl) _ rfl
      simp only [Dispatcher.perform, Dispatcher.acknowledge, mapResult_eq, Transport.ack, hcall,
        DispatchCall.view, DispatchCall.toCall, Storage.perform, bind_asTask]
      exact ⟨rfl, hstore⟩
  | onStore c => exact ⟨rfl, rfl⟩

/-- The messages of a dispatcher's call have frames, and the attempts in the answer fit. -/
def CallFits (r : Remote σ) (e : TimedDispatch) : Prop :=
  match e.call.toClientCall? with
  | none => True
  | some c => c.Fits r.service e.id e.now ∧
      AttemptsFit (r.service.perform e.id e.now c.toServiceCall).1

instance (r : Remote σ) : DecidablePred r.CallFits := fun e => by
  unfold CallFits
  cases e.call.toClientCall? <;> infer_instance

/-- So do those of all calls. -/
def AllFit : Remote σ → List TimedDispatch → Prop
  | _, [] => True
  | r, e :: calls => r.CallFits e ∧ AllFit (Dispatcher.perform r e).2 calls

instance instDecidableAllFit (calls : List TimedDispatch) (r : Remote σ) :
    Decidable (r.AllFit calls) :=
  match calls with
  | [] => isTrue trivial
  | e :: calls =>
    have := instDecidableAllFit calls (Dispatcher.perform r e).2
    inferInstanceAs (Decidable (r.CallFits e ∧ AllFit (Dispatcher.perform r e).2 calls))

end Remote

/-! ### Both -/

namespace TimedDispatch

/-- The ids of the tasks that calls may create. -/
def createdIds (calls : List TimedDispatch) : List String :=
  (calls.filter fun e => e.call.isEnqueue).map id

lemma createdIds_cons (e : TimedDispatch) (calls : List TimedDispatch) :
    createdIds (e :: calls)
      = (if e.call.isEnqueue = true then [e.id] else []) ++ createdIds calls := by
  rw [createdIds, List.filter_cons]
  split_ifs <;> rfl

end TimedDispatch

namespace Dispatcher

open TimedDispatch

variable {store : TaskStore} {s : Service TaskStore} {L : Ledger} {e : TimedDispatch}

/-- A store near and a store far keep the tasks of one ledger, all of them clean. -/
structure Paired (store : TaskStore) (s : Service TaskStore) (L : Ledger) : Prop where
  near : store.Mirrors L
  far : s.store.Mirrors L
  clean : L.AllClean

/-- A call shows the same near and far and leaves the same tasks. -/
theorem Paired.perform (h : Paired store s L) (hnew : e.call.isEnqueue = true → L.get? e.id = none)
    (howner : e.call ≠ .onStore (.dequeue "")) (hfits : (Remote.mk s).CallFits e) :
    (perform (Embedded.mk store) e).1 = (perform (Remote.mk s) e).1 ∧
      Paired (perform (Embedded.mk store) e).2.store (perform (Remote.mk s) e).2.service
        (Storage.perform L e.id e.now e.call.toCall).2 := by
  have howner' : e.call.toCall ≠ .dequeue "" := by
    intro hc
    cases hcall : e.call with
    | onStore c =>
        rw [hcall] at hc howner
        exact howner (congrArg DispatchCall.onStore hc)
    | _ =>
        rw [hcall] at hc
        cases hc
  obtain ⟨hnear, hnear'⟩ := h.near.perform e.id e.now e.call.toCall hnew howner'
  obtain ⟨hfar, hfar'⟩ := h.far.perform e.id e.now e.call.toCall hnew howner'
  obtain ⟨hclean, hreturned⟩ := (L.may_perform e.id e.now e.call.toCall).clean h.clean
    fun hc => absurd hc howner'
  obtain ⟨hview, hstore⟩ := Remote.perform_view (s := s) (e := e)
    (fun c hc => by
      rw [Remote.CallFits, hc] at hfits
      exact hfits.1)
    (fun hsome o ho t ht => by
      obtain ⟨c, hc⟩ := Option.ne_none_iff_exists'.mp hsome
      rw [Remote.CallFits, hc] at hfits
      refine ⟨hreturned o (hfar ▸ ho) t ht, hfits.2 o ?_ t ht⟩
      rw [← Service.perform_arriving, (s.perform_dispatch e hc).1, ho]
      rfl)
  rw [Embedded.perform_eq, hview, hnear, hfar]
  refine ⟨rfl, hnear', ?_, hclean⟩
  rw [hstore]
  exact hfar'

/-- Calls show the same near and far, from stores with the same tasks on. -/
lemma Paired.views (h : Paired store s L) {calls : List TimedDispatch}
    (hids : (createdIds calls).Nodup) (hnew : ∀ i ∈ createdIds calls, L.get? i = none)
    (howner : ∀ e ∈ calls, e.call ≠ .onStore (.dequeue ""))
    (hfits : (Remote.mk s).AllFit calls) :
    views (Embedded.mk store) calls = views (Remote.mk s) calls := by
  induction calls generalizing store s L with
  | nil => rfl
  | cons e calls ih =>
      obtain ⟨hfit, hfits⟩ := hfits
      rw [createdIds_cons, List.nodup_append] at hids
      rw [createdIds_cons] at hnew
      have hfresh : e.call.isEnqueue = true → L.get? e.id = none := fun he =>
        hnew e.id (List.mem_append_left _ (by simp [he]))
      obtain ⟨hview, hpaired⟩ := h.perform hfresh (howner e List.mem_cons_self) hfit
      rw [views, views, hview]
      refine congrArg _ (ih hpaired hids.2.1 (fun i hi => ?_)
        (fun e' he' => howner e' (List.mem_cons_of_mem e he')) hfits)
      -- a task that is there now has the id of this call, which the later ones do not use
      rw [Option.eq_none_iff_forall_ne_some]
      intro t ht
      obtain ⟨_, _, _, hcall, hstored⟩ := (L.may_perform e.id e.now e.call.toCall).created
        (hnew i (List.mem_append_right _ hi)) ht
      have he : e.call.isEnqueue = true := by
        rw [DispatchCall.isEnqueue, hcall]
        rfl
      have hid : i = e.id := (Ledger.id_of_get? ht).symm.trans (Task.of_new hstored).1
      exact hids.2.2 e.id (by simp [he]) i hi hid.symm

/-- A dispatcher on a store of this process and one on a broker over another store show the same,
whatever they are asked and whatever workers do to both stores in the same way. Both stores are
without tasks at first, of either kind and without faults, and new tasks have new ids; the messages
have frames, and the attempts fit in 32 bits with sign. -/
theorem views_eq (hnear : store.IsFresh) (hfar : s.store.IsFresh) {calls : List TimedDispatch}
    (hids : (createdIds calls).Nodup) (howner : ∀ e ∈ calls, e.call ≠ .onStore (.dequeue ""))
    (hfits : (Remote.mk s).AllFit calls) :
    views (Embedded.mk store) calls = views (Remote.mk s) calls := by
  have hpaired : Paired store s .empty := ⟨hnear.mirrors, hfar.mirrors, Ledger.allClean_empty⟩
  exact hpaired.views hids (fun _ _ => rfl) howner hfits

/-- A broker on a keyspace. -/
def distantQueue : Service TaskStore := ⟨.keyspace (.empty "queue"), ⟨30, 2⟩, .none, .none⟩

/-- A task is dispatched, leased by a worker, listed and finished, and finished once more. -/
def dispatchedCalls : List TimedDispatch :=
  [⟨"a", 5, .runTask "orion" "scan" ∅⟩, ⟨"", 7, .onStore (.dequeue "w")⟩,
    ⟨"", 8, .listTasks (some .inProgress)⟩, ⟨"", 9, .acknowledge "a" true (some "")⟩,
    ⟨"", 10, .acknowledge "a" false none⟩]

/-- A table near shows the same as a keyspace far. -/
theorem views_dispatchedCalls :
    (TaskStore.table .empty).IsFresh ∧ distantQueue.store.IsFresh ∧
      (createdIds dispatchedCalls).Nodup ∧ (Remote.mk distantQueue).AllFit dispatchedCalls ∧
      views (Embedded.mk (TaskStore.table .empty)) dispatchedCalls
        = views (Remote.mk distantQueue) dispatchedCalls := by
  have hids : (createdIds dispatchedCalls).Nodup := by decide
  have howner : ∀ e ∈ dispatchedCalls, e.call ≠ .onStore (.dequeue "") := by
    intro e he
    simp only [dispatchedCalls, List.mem_cons, List.not_mem_nil, or_false] at he
    rcases he with rfl | rfl | rfl | rfl | rfl <;> simp
  have hfits : (Remote.mk distantQueue).AllFit dispatchedCalls := by decide +kernel
  exact ⟨.table, .keyspace "queue", hids, hfits,
    views_eq .table (.keyspace "queue") hids howner hfits⟩

end Dispatcher

end LeaseQueue
