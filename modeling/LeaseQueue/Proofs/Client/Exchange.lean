/-
A call over the wire is the call on the service behind it.

* `ClientCall.toServiceCall`: the call on the service that a client's call asks for;
* `ClientCall.Fits`: the request and the answer to it have frames;
* `Remote.perform_eq_accept`: then the caller gets to judge the answer of the service;
* `ClientCall.handle_request`, `ClientCall.accept_handle`: tasks that survive the wire are accepted
  as they are, and errors as those of the service;
* `Remote.perform_eq`: so a call over the wire is the call on the service.
-/
import LeaseQueue.Client.Call
import LeaseQueue.Proofs.Service.Connections
import LeaseQueue.Proofs.Service.Requests
import LeaseQueue.Proofs.Wire.Convert
import LeaseQueue.Proofs.Wire.Size

namespace LeaseQueue

/-! ### One frame -/

namespace Frame

variable {m : Message} {bytes : ByteArray}

/-- The frame of a message holds this message and nothing else. -/
lemma decode_of_encode (h : encode m = .ok bytes) : decode bytes = (.ok (some m), .empty) := by
  rw [encode_eq] at h
  split_ifs at h with hlarge
  obtain rfl := Except.ok.inj h
  have hmax := Nat.le_of_not_lt hlarge
  have hL : 1 + (Body.encode m).size = 1 + (Body.encode m).size + ByteArray.empty.size := rfl
  have hrest := (parts_frame hL hmax .empty).2.2.2
  have hdecode := (decode_iff (n := 4 + (1 + (Body.encode m).size))).mpr
    ⟨_, .empty, .empty, rfl, hL, by omega, hmax, rfl⟩
  rw [hrest, ByteArray.append_empty] at hdecode
  exact hdecode.2

lemma parse_of_encode (h : encode m = .ok bytes) : parse bytes = ⟨[m], none, .empty⟩ := by
  have hempty : decode .empty = (.ok none, .empty) := rfl
  rw [parse_eq_of_some (decode_of_encode h), parse_eq_of_none hempty]

end Frame

/-- A connection that is sent one request answers it, if the answer has a frame. -/
lemma Connection.receive_request {σ : Type} [Storage σ] (s : Service σ) (supply : Supply)
    {m : Message} {frame answer : ByteArray} (hm : Frame.encode m = .ok frame)
    (hanswer : Frame.encode (s.handle (supply.id 0) (supply.time 0) m).1 = .ok answer) :
    ((start s).receive supply frame).sent = answer ∧
      ((start s).receive supply frame).service
        = (s.handle (supply.id 0) (supply.time 0) m).2 := by
  have hagrees := receive_agrees_take (c := start s) supply rfl frame
  have hbuffer : (start s).buffer ++ frame = frame := ByteArray.empty_append
  rw [hbuffer, Frame.parse_of_encode hm] at hagrees
  have hsent : ((start s).answer supply m).sent = answer := by
    simp only [Connection.answer, start, hanswer]
    exact ByteArray.empty_append
  have hservice : ((start s).answer supply m).service
      = (s.handle (supply.id 0) (supply.time 0) m).2 := by
    simp only [Connection.answer, start, hanswer]
  exact ⟨hagrees.sent.trans hsent, hagrees.service.trans hservice⟩

/-! ### Calls and their answers -/

namespace ClientCall

/-- The call on the service that a client's call asks for. -/
def toServiceCall : ClientCall → ServiceCall
  | enqueue type payload metadata => .enqueue type payload metadata
  | dequeue worker => .dequeue worker
  | ack id success result => .ack id success result
  | list status => .list ((status.map Status.name).getD "")
  | heartbeat id => .heartbeat id

/-- A call with none in place of an empty result, which is how it arrives. -/
def arriving : ClientCall → ClientCall
  | ack id success result => ack id success (result.filter (· ≠ ""))
  | c => c

variable {σ : Type} [Storage σ]

/-- The request and the answer to it have frames. -/
structure Fits (s : Service σ) (id : String) (now : Timestamp) (c : ClientCall) : Prop where
  request : Frame.Accepts c.request
  answer : Frame.Accepts (s.handle id now c.request).1

instance (s : Service σ) (id : String) (now : Timestamp) : DecidablePred (Fits s id now) :=
  fun c => decidable_of_iff
    (1 + (Body.encode c.request).size ≤ Frame.maxSize ∧
      1 + (Body.encode (s.handle id now c.request).1).size ≤ Frame.maxSize)
    ⟨fun h => ⟨Frame.accepts_iff.mpr h.1, Frame.accepts_iff.mpr h.2⟩,
      fun h => ⟨Frame.accepts_iff.mp h.request, Frame.accepts_iff.mp h.answer⟩⟩

lemma accept_error (c : ClientCall) (e : TaskError) :
    c.accept (.status (.ofTaskError e)) = .error (.ofTaskError e) := by
  rw [← ClientError.ofStatus_ofTaskError]
  cases c <;> rfl

lemma readTask_ofTask {t : Task} (h : t.Travels) : readTask (.ofTask t) = .ok t := by
  rw [readTask, WireTask.toTask_ofTask h]
  rfl

lemma mapM_readTask {l : List Task} (h : ∀ t ∈ l, t.Travels) :
    (l.map WireTask.ofTask).mapM readTask = .ok l := by
  induction l with
  | nil => rfl
  | cons t l ih =>
      have hl := ih fun u hu => h u (List.mem_cons_of_mem t hu)
      rw [List.map_cons, List.mapM_cons, readTask_ofTask (h t List.mem_cons_self), hl]
      rfl

/-- The service handles a request by its call, and the caller accepts the answer if its tasks
survive the wire. -/
lemma handle_request (s : Service σ) (id : String) (now : Timestamp) (c : ClientCall) :
    ∃ (α : Type) (x : Except TaskError α × Service σ) (respond : α → Message) (wrap : α → Outcome),
      s.handle id now c.request = Service.reply x respond ∧
      s.perform id now c.arriving.toServiceCall = mapResult wrap x ∧
      ∀ a, (wrap a).Travels → c.accept (respond a) = .ok (wrap a) := by
  have htask : ∀ {t : Task}, (Outcome.task t).Travels →
      (readTask (.ofTask t)).map Outcome.task = .ok (.task t) := by
    intro t ht
    rw [readTask_ofTask (ht t List.mem_cons_self)]
    rfl
  cases c with
  | enqueue type payload metadata =>
      refine ⟨_, s.enqueue id now type payload metadata, fun t => .enqueued (.ofTask t), .task, ?_,
        rfl, fun t ht => htask ht⟩
      rw [request, Service.handle, WireEntry.toMetadata_ofMetadata]
  | dequeue worker =>
      refine ⟨_, s.dequeue now worker, _, .found, rfl, rfl, fun t ht => ?_⟩
      cases t with
      | none => rfl
      | some t =>
          change (readTask (.ofTask t)).map _ = _
          rw [readTask_ofTask (ht t List.mem_cons_self)]
          rfl
  | ack taskId success result =>
      have hresult : (some (result.getD "")).filter (· ≠ "") = result.filter (· ≠ "") := by
        cases result <;> rfl
      refine ⟨_, s.ack now taskId success (result.filter (· ≠ "")), fun t => .acked (.ofTask t),
        .task, ?_, rfl, fun t ht => htask ht⟩
      rw [request, Service.handle, hresult]
  | list status =>
      refine ⟨_, s.list ((status.map Status.name).getD ""), _, .tasks, rfl, rfl, fun l hl => ?_⟩
      change ((l.map WireTask.ofTask).mapM readTask).map _ = _
      rw [mapM_readTask (l := l) hl]
      rfl
  | heartbeat taskId =>
      exact ⟨_, s.heartbeat now taskId, _, .task, rfl, rfl, fun t ht => htask ht⟩

/-- The caller gets the answer of the service, if its tasks survive the wire, and the service is
left as the call leaves it. -/
theorem accept_handle (s : Service σ) (id : String) (now : Timestamp) (c : ClientCall)
    (htravels : ∀ o, (s.perform id now c.arriving.toServiceCall).1 = .ok o → o.Travels) :
    c.accept (s.handle id now c.request).1
        = (s.perform id now c.arriving.toServiceCall).1.mapError .ofTaskError ∧
      (s.handle id now c.request).2 = (s.perform id now c.arriving.toServiceCall).2 := by
  obtain ⟨α, x, respond, wrap, hhandle, hperform, haccept⟩ := c.handle_request s id now
  rw [hperform] at htravels
  rw [hhandle, hperform, Service.reply_snd]
  refine ⟨?_, rfl⟩
  obtain ⟨e | a, s'⟩ := x
  · exact c.accept_error e
  · exact haccept a (htravels _ rfl)

end ClientCall

namespace Remote

variable {σ : Type} [Storage σ]

/-- Where both messages have frames, the caller judges the answer of the service. -/
lemma perform_eq_accept {s : Service σ} {id : String} {now : Timestamp} {c : ClientCall}
    (hfits : c.Fits s id now) :
    (Remote.mk s).perform id now c
      = (c.accept (s.handle id now c.request).1, ⟨(s.handle id now c.request).2⟩) := by
  obtain ⟨⟨frame, hrequest⟩, ⟨answer, hanswer⟩⟩ := hfits
  obtain ⟨hsent, hservice⟩ :=
    Connection.receive_request s ⟨fun _ => now, fun _ => id⟩ hrequest hanswer
  have hmessage : (Received.closed answer).message = .ok (s.handle id now c.request).1 := by
    simp only [Received.message, Frame.decode_of_encode hanswer]
  simp only [perform, ClientCall.exchange, hrequest, hsent, hmessage, hservice, Option.getD_some]
  rfl

/-- A call over the wire has the result of the call on the service, and leaves the service as that
does, if both messages have frames and the tasks survive the wire. -/
theorem perform_eq {s : Service σ} {id : String} {now : Timestamp} {c : ClientCall}
    (hfits : c.Fits s id now)
    (htravels : ∀ o, (s.perform id now c.arriving.toServiceCall).1 = .ok o → o.Travels) :
    (Remote.mk s).perform id now c
      = ((s.perform id now c.arriving.toServiceCall).1.mapError .ofTaskError,
        ⟨(s.perform id now c.arriving.toServiceCall).2⟩) := by
  obtain ⟨hanswer, hservice⟩ := c.accept_handle s id now htravels
  rw [perform_eq_accept hfits, hanswer, hservice]

end Remote

end LeaseQueue
