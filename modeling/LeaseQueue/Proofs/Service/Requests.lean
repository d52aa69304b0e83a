/-
Requests as calls of a run.

* `TimedRequest`, `Service.answer`, `Service.handled`: requests with their times, their answers, and
  the service after a run of them;
* `Service.handled_eq_after`: such a run is a run of calls;
* `Service.Mirrors.handled`: a service whose store never fails answers requests as on a ledger.
-/
import LeaseQueue.Broker.Handler
import LeaseQueue.Proofs.Service.Mirror

namespace LeaseQueue

/-! ### Requests -/

/-- A message that arrives, with the id of a task that it may create. -/
structure TimedRequest where
  id : String
  now : Timestamp
  message : Message
deriving DecidableEq, Repr

/-- The call that a message asks for, none if it is no request. -/
def Message.call? : Message → Option ServiceCall
  | .enqueue type payload metadata =>
    some (.enqueue type payload (WireEntry.toMetadata metadata))
  | .dequeue worker => some (.dequeue worker)
  | .ack id success result => some (.ack id success (some result |>.filter (· ≠ "")))
  | .listTasks name => some (.list name)
  | .heartbeat id => some (.heartbeat id)
  | _ => none

namespace TimedRequest

/-- The call of a run that a request makes. -/
def call? (r : TimedRequest) : Option TimedServiceCall :=
  r.message.call?.map fun call => ⟨r.id, r.now, r.now, call⟩

/-- The ids of the tasks that requests may create. -/
def createdIds (requests : List TimedRequest) : List String :=
  (requests.filter fun r => r.message.type = .enqueue).map TimedRequest.id

lemma createdIds_append_singleton {requests : List TimedRequest} {r : TimedRequest}
    (h : r.message.type = .enqueue) :
    createdIds (requests ++ [r]) = createdIds requests ++ [r.id] := by
  simp [createdIds, List.filter_append, h]

lemma createdIds_call? (requests : List TimedRequest) :
    TimedServiceCall.createdIds (requests.filterMap call?) = createdIds requests := by
  induction requests with
  | nil => rfl
  | cons r requests ih =>
      obtain ⟨id, now, message⟩ := r
      cases message with
      | enqueue => exact congrArg (List.cons id) ih
      | _ => exact ih

end TimedRequest

namespace Service

section

variable {σ : Type} [Storage σ]

/-- The answer to a request. -/
def answer (s : Service σ) (r : TimedRequest) : Message := (s.handle r.id r.now r.message).1

/-- The service after a run of requests. -/
def handled (s : Service σ) (requests : List TimedRequest) : Service σ :=
  requests.foldl (fun s r => (s.handle r.id r.now r.message).2) s

lemma handled_append_singleton (s : Service σ) (requests : List TimedRequest) (r : TimedRequest) :
    s.handled (requests ++ [r]) = (s.handled requests).handled [r] := List.foldl_append

omit [Storage σ] in
lemma reply_snd {α : Type} (x : Except TaskError α × Service σ) (respond : α → Message) :
    (reply x respond).2 = x.2 := by
  rcases x with ⟨_ | a, s⟩ <;> rfl

omit [Storage σ] in
lemma reply_error {α : Type} {x : Except TaskError α × Service σ} {e : TaskError}
    (h : x.1 = .error e) (respond : α → Message) :
    (reply x respond).1 = .status (.ofTaskError e) := by
  obtain ⟨_, s⟩ := x
  obtain rfl := h
  rfl

omit [Storage σ] in
lemma reply_ok {α : Type} {x : Except TaskError α × Service σ} {a : α} (h : x.1 = .ok a)
    (respond : α → Message) : (reply x respond).1 = respond a := by
  obtain ⟨_, s⟩ := x
  obtain rfl := h
  rfl

/-- A request leaves what its call leaves. -/
lemma handled_singleton (s : Service σ) (r : TimedRequest) :
    s.handled [r] = s.after r.call?.toList := by
  obtain ⟨id, now, message⟩ := r
  cases message with
  | dequeue worker =>
      change (reply (s.dequeue now worker) _).2 = (s.serve ⟨id, now, now, .dequeue worker⟩).2
      rw [reply_snd, serve_eq_perform s rfl]
      rfl
  | enqueue | ack | listTasks | heartbeat => exact reply_snd _ _
  | _ => rfl

theorem handled_eq_after (s : Service σ) (requests : List TimedRequest) :
    s.handled requests = s.after (requests.filterMap TimedRequest.call?) := by
  induction requests generalizing s with
  | nil => rfl
  | cons r requests ih =>
      have hstep : s.handled (r :: requests) = (s.handled [r]).handled requests := rfl
      rw [hstep, ih, handled_singleton]
      cases hcall : r.call? with
      | none => rw [List.filterMap_cons_none hcall]; rfl
      | some e => rw [List.filterMap_cons_some hcall]; rfl

end

/-! ### Requests on a ledger -/

section Mirror

variable {s : Service TaskStore} {m : Service Ledger}

lemma Reflects.reply {α : Type} {x : Except TaskError α × Service TaskStore}
    {y : Except TaskError α × Service Ledger} (h : Reflects x y) (respond : α → Message) :
    (Service.reply x respond).1 = (Service.reply y respond).1 ∧
      (Service.reply x respond).2.Mirrors (Service.reply y respond).2 := by
  obtain ⟨hanswer, hmirrors⟩ := h
  obtain ⟨r, s⟩ := x
  obtain ⟨r', m⟩ := y
  obtain rfl : r = r' := hanswer
  cases r <;> exact ⟨rfl, hmirrors⟩

/-- A request is answered as on the ledger, if a new task has a new id. -/
lemma Mirrors.handled (h : s.Mirrors m) (r : TimedRequest)
    (hnew : r.message.type = .enqueue → m.store.get? r.id = none) :
    s.answer r = m.answer r ∧ (s.handled [r]).Mirrors (m.handled [r]) := by
  obtain ⟨id, now, message⟩ := r
  cases message with
  | enqueue type payload metadata => exact (h.enqueue (hnew rfl) now type payload _).reply _
  | dequeue worker => exact (h.dequeue now worker).reply _
  | ack taskId success result => exact (h.ack now taskId success _).reply _
  | listTasks name => exact (h.list name).reply _
  | heartbeat taskId => exact (h.heartbeat now taskId).reply _
  | _ => exact ⟨rfl, h⟩

end Mirror

end Service

end LeaseQueue
