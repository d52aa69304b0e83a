/-
When the answer to a request fits in a frame.

* `TimedRequest.Refused`, `TimedRequest.Responded`: the two ways in which a request may be answered;
* `TimedRequest.cost`: the bytes of a request, and what its answer may take more;
* `Service.Settles`: a service on a ledger answers in one of the two ways, and the room of its tasks
  grows by less than the cost; `Service.settles_enqueue` to `Service.settles_list` for each kind of
  request, `Service.settles` for all;
* `Service.answered_after`: over every run, on a store of either kind, every request is answered so,
  and the answer has a frame as long as all requests together cost no more bytes.
-/
import LeaseQueue.Proofs.Ledger.Weight
import LeaseQueue.Proofs.Service.Requests
import Mathlib.Data.String.Basic

namespace LeaseQueue

/-! ### Wording -/

namespace TaskError

lemma size_notFound (id : String) : (notFound id).message.utf8ByteSize = 16 + id.utf8ByteSize := by
  have htext : (notFound id).message = "Task not found: " ++ id := rfl
  rw [htext, String.utf8ByteSize_append]
  rfl

lemma size_invalidArgument (reason : String) :
    (invalidArgument reason).message.utf8ByteSize = 18 + reason.utf8ByteSize := by
  have htext : (invalidArgument reason).message = "Invalid argument: " ++ reason := rfl
  rw [htext, String.utf8ByteSize_append]
  rfl

lemma size_invalidState_le (id : String) (status : Status) :
    (invalidState id status).message.utf8ByteSize ≤ 28 + id.utf8ByteSize := by
  have htext : (invalidState id status).message
      = "Task " ++ id ++ " is already " ++ status.name := rfl
  have htask : "Task ".utf8ByteSize = 5 := by decide
  have halready : " is already ".utf8ByteSize = 12 := by decide
  have hstatus : status.name.utf8ByteSize ≤ 11 := by cases status <;> decide
  simp only [htext, String.utf8ByteSize_append, htask, halready]
  omega

end TaskError

/-- The wording for a status that is none repeats its name. -/
lemma Status.size_parse {name : String} {e : TaskError} (h : Status.parse name = .error e) :
    e.message.utf8ByteSize = 39 + name.utf8ByteSize := by
  rw [parse] at h
  cases hname : ofName? name with
  | some status => simp [hname] at h
  | none =>
      rw [hname] at h
      obtain rfl := Except.error.inj h
      have hopen : "unsupported status '".utf8ByteSize = 20 := by decide
      have hclose : "'".utf8ByteSize = 1 := by decide
      rw [TaskError.size_invalidArgument]
      change 18 + ("unsupported status '" ++ name ++ "'").utf8ByteSize = _
      simp only [String.utf8ByteSize_append, hopen, hclose]
      omega

namespace Task

variable {t t' : Task} {now : Timestamp} {e : TaskError}

lemma size_new {id type payload : String} {metadata : Metadata}
    (h : Task.new id now type payload metadata = .error e) : e.message.utf8ByteSize = 45 := by
  rw [new] at h
  split_ifs at h
  obtain rfl := Except.error.inj h
  rw [TaskError.size_invalidArgument]
  rfl

lemma size_finish_le {success : Bool} {result : Option String}
    (h : t.finish success result now = .error e) :
    e.message.utf8ByteSize ≤ 28 + t.id.utf8ByteSize := by
  rw [finish] at h
  split_ifs at h
  obtain rfl := Except.error.inj h
  exact TaskError.size_invalidState_le t.id t.status

end Task

/-! ### Answers -/

namespace TimedRequest

/-- The bytes of a request in its frame, with those of the id of a task that it may create and a
hundred more. -/
def cost (r : TimedRequest) : Nat :=
  5 + (Body.encode r.message).size + r.id.utf8ByteSize + 100

/-- A request fails. Its status costs no more than the request, has a frame when it fits in one, and
no stored task is touched. -/
def Refused (r : TimedRequest) (answer : Message) (before after : String → Option Task) : Prop :=
  after = before ∧ ∃ st, answer = .status st ∧ 13 + st.message.utf8ByteSize ≤ r.cost ∧
    (Frame.Accepts answer ↔ 13 + st.message.utf8ByteSize ≤ Frame.maxSize)

/-- A request is answered by its response with tasks as they are stored afterwards, which has a
frame when those tasks fit in one. -/
structure Responded (r : TimedRequest) (answer : Message) (after : String → Option Task)
    (ts : List Task) : Prop where
  kind : r.message.type.response? = some answer.type
  tasks : answer.tasks = ts.map WireTask.ofTask
  ids : (ts.map Task.id).Nodup
  stored : ∀ t ∈ ts, after t.id = some t
  accepts : Frame.Accepts answer ↔
    answer.overhead + (ts.map fun t => (WireTask.ofTask t).size).sum ≤ Frame.maxSize

variable {r : TimedRequest} {answer : Message} {before after : String → Option Task}
  {ts : List Task}

lemma refused_status {st : CallStatus} (hanswer : answer = .status st)
    (hsize : 13 + st.message.utf8ByteSize ≤ r.cost) (hafter : after = before) :
    r.Refused answer before after := by
  refine ⟨hafter, st, hanswer, hsize, ?_⟩
  rw [Frame.accepts_iff, hanswer, Message.size_status]

lemma responded_of_tasks (hkind : r.message.type.response? = some answer.type)
    (htasks : answer.tasks = ts.map WireTask.ofTask) (hids : (ts.map Task.id).Nodup)
    (hstored : ∀ t ∈ ts, after t.id = some t) : r.Responded answer after ts where
  kind := hkind
  tasks := htasks
  ids := hids
  stored := hstored
  accepts := by
    rw [Frame.accepts_iff, Message.size_response hkind, htasks, List.map_map]
    rfl

end TimedRequest

/-! ### Answers on a ledger -/

namespace Service

open TimedRequest

/-- A request fails or gets its response, and the room of all tasks grows by less than it costs. -/
structure Settles (m : Service Ledger) (r : TimedRequest) : Prop where
  answered : r.Refused (m.answer r) m.store.get? (m.handled [r]).store.get? ∨
    ∃ ts, r.Responded (m.answer r) (m.handled [r]).store.get? ts
  weight : (m.handled [r]).store.weight + 9 ≤ m.store.weight + r.cost

variable {m m' : Service Ledger} {r : TimedRequest} {α : Type}
  {x : Except TaskError α × Service Ledger} {respond : α → Message}

/-- A call that fails and leaves the tasks alone. -/
lemma settles_error (hreply : m.handle r.id r.now r.message = reply x respond) {e : TaskError}
    (hx : x.1 = .error e) (hsize : 13 + e.message.utf8ByteSize ≤ r.cost)
    (hstore : x.2.store = m.store) : m.Settles r := by
  have hanswer : m.answer r = .status (.ofTaskError e) := by
    rw [answer, hreply, reply_error hx]
  have hafter : (m.handled [r]).store = m.store := by
    change (m.handle r.id r.now r.message).2.store = m.store
    rw [hreply, reply_snd, hstore]
  refine ⟨.inl (refused_status hanswer hsize (by rw [hafter])), ?_⟩
  rw [hafter, cost]
  omega

/-- A call that succeeds, with the tasks of its response. -/
lemma settles_ok (hreply : m.handle r.id r.now r.message = reply x respond) {a : α}
    (hx : x.1 = .ok a) {L : Ledger} (hstore : x.2.store = L) (ts : List Task)
    (hkind : r.message.type.response? = some (respond a).type)
    (htasks : (respond a).tasks = ts.map WireTask.ofTask) (hids : (ts.map Task.id).Nodup)
    (hstored : ∀ t ∈ ts, L.get? t.id = some t) (hweight : L.weight + 9 ≤ m.store.weight + r.cost) :
    m.Settles r := by
  have hanswer : m.answer r = respond a := by
    rw [answer, hreply, reply_ok hx]
  have hafter : (m.handled [r]).store = L := by
    change (m.handle r.id r.now r.message).2.store = L
    rw [hreply, reply_snd, hstore]
  refine ⟨.inr ⟨ts, ?_⟩, ?_⟩
  · rw [hanswer, hafter]
    exact responded_of_tasks hkind htasks hids hstored
  · rw [hafter]
    exact hweight

/-- A call that succeeds with the one task that it puts. -/
lemma settles_put (hreply : m.handle r.id r.now r.message = reply x respond) {a : α}
    (hx : x.1 = .ok a) {M : Ledger} {t : Task} (hstore : x.2.store = M.put t)
    (hkind : r.message.type.response? = some (respond a).type)
    (htasks : (respond a).tasks = [WireTask.ofTask t])
    (hweight : (M.put t).weight + 9 ≤ m.store.weight + r.cost) : m.Settles r := by
  refine settles_ok hreply hx hstore [t] hkind htasks (List.nodup_singleton _) ?_ hweight
  intro u hu
  obtain rfl := List.mem_singleton.mp hu
  rw [Ledger.get?_put, if_pos rfl]

variable (m) (id : String) (now : Timestamp)

lemma settles_enqueue (type payload : String) (metadata : List WireEntry) :
    m.Settles ⟨id, now, .enqueue type payload metadata⟩ := by
  obtain ⟨hanswer, hstore, -⟩ :=
    m.enqueue_ledger id now type payload (WireEntry.toMetadata metadata)
  cases hnew : Task.new id now type payload (WireEntry.toMetadata metadata) with
  | error e =>
      rw [hnew] at hanswer
      refine settles_error rfl hanswer ?_ ?_
      · have hsize := Task.size_new hnew
        simp only [cost]
        omega
      · rw [hstore]
        simp only [Storage.enqueue, hnew]
  | ok t =>
      rw [hnew] at hanswer
      have hput : (m.enqueue id now type payload (WireEntry.toMetadata metadata)).2.store
          = m.store.put t := by
        rw [hstore]
        simp only [Storage.enqueue, hnew]
      have hadd := m.store.weight_put_le_add t
      have htags := Metadata.size_toMetadata_le metadata
      rw [Task.weight_new hnew] at hadd
      refine settles_put rfl hanswer hput rfl rfl ?_
      simp only [cost, Body.encode, ByteArray.size_append, Body.size_text, Body.size_list,
        Body.size_entry]
      omega

lemma settles_dequeue (worker : String) : m.Settles ⟨id, now, .dequeue worker⟩ := by
  cases hworker : Text.isBlank worker with
  | true =>
      have hrefused : m.dequeue now worker
          = (.error (.invalidArgument "worker_id must not be empty"), m) := by
        simp only [Service.dequeue, hworker, if_true]
      refine settles_error (x := m.dequeue now worker) rfl (congrArg Prod.fst hrefused) ?_
        (congrArg (fun x => x.2.store) hrefused)
      have hreason : "worker_id must not be empty".utf8ByteSize = 27 := by decide
      rw [TaskError.size_invalidArgument, hreason, cost]
      omega
  | false =>
      obtain ⟨-, hswept, -⟩ := m.recover_ledger now
      obtain ⟨hanswer, hstore, -⟩ := m.dequeue_ledger now hworker
      have hroom : (m.recover now).2.store.weight ≤ m.store.weight := by
        rw [hswept]
        exact m.store.weight_recover_le m.settings now
      generalize (m.recover now).2.store = M at hanswer hstore hroom
      obtain ⟨-, hidle⟩ | ⟨t, ht, -, -, hleased⟩ := M.dequeue_cases now worker
      · rw [hidle] at hanswer hstore
        refine settles_ok rfl hanswer hstore [] rfl rfl List.nodup_nil (by simp) ?_
        simp only [cost]
        omega
      · rw [hleased] at hanswer hstore
        have hid : (t.claim worker now).id = t.id := rfl
        have hput := Ledger.weight_put_le ht hid (t.weight_claim_le worker now)
        refine settles_put rfl hanswer hstore rfl rfl ?_
        simp only [cost, Body.encode, Body.size_text]
        omega

/-- A transition of one task, with errors that repeat its id. -/
lemma settles_update {x : Except TaskError Task × Service Ledger} {respond : Task → Message}
    {id taskId : String} {message : Message} {transition : Task → Except TaskError Task} {c : Nat}
    (hreply : m.handle id now message = reply x respond)
    (hx : x.1 = (m.store.update taskId transition).1.mapError StoreError.toTaskError)
    (hstore : x.2.store = (m.store.update taskId transition).2)
    (hkind : ∀ t, message.type.response? = some (respond t).type)
    (htasks : ∀ t, (respond t).tasks = [WireTask.ofTask t])
    (hid : ∀ t t', transition t = .ok t' → t'.id = t.id)
    (herror : ∀ t e, transition t = .error e → e.message.utf8ByteSize ≤ 28 + t.id.utf8ByteSize)
    (hweight : ∀ t t', transition t = .ok t' → t'.weight ≤ t.weight + c)
    (hsize : taskId.utf8ByteSize + c ≤ (Body.encode message).size) :
    m.Settles ⟨id, now, message⟩ := by
  obtain ⟨-, hupdate⟩ | ⟨t, ht, ⟨e, he, hupdate⟩ | ⟨t', ht', hupdate⟩⟩ :=
    m.store.update_cases taskId transition
  all_goals simp only [hupdate] at hx hstore
  · refine settles_error hreply hx ?_ hstore
    change 13 + (TaskError.notFound taskId).message.utf8ByteSize ≤ _
    rw [TaskError.size_notFound]
    simp only [cost]
    omega
  · refine settles_error hreply hx ?_ hstore
    have hle := herror t e he
    rw [Ledger.id_of_get? ht] at hle
    change 13 + e.message.utf8ByteSize ≤ _
    simp only [cost]
    omega
  · obtain rfl := Ledger.id_of_get? ht
    have hput := Ledger.weight_put_le ht (hid t t' ht') (hweight t t' ht')
    refine settles_put hreply hx hstore (hkind t') (htasks t') ?_
    simp only [cost]
    omega

lemma settles_ack (taskId : String) (success : Bool) (result : String) :
    m.Settles ⟨id, now, .ack taskId success result⟩ := by
  obtain ⟨hanswer, hstore, -⟩ :=
    m.ack_ledger now taskId success (some result |>.filter (· ≠ ""))
  refine m.settles_update now rfl hanswer hstore (c := result.utf8ByteSize) (fun _ => rfl)
    (fun _ => rfl) (fun t t' h => ?_) (fun t e h => Task.size_finish_le h) (fun t t' h => ?_) ?_
  · exact (Task.sameIdentity_finish h).1
  · refine Nat.le_trans (Task.weight_finish_le h) (Nat.add_le_add_left ?_ _)
    rw [Option.filter_some]
    split_ifs
    · exact Nat.le_refl _
    · exact Nat.zero_le _
  · simp only [Body.encode, ByteArray.size_append, Body.size_text]
    omega

lemma settles_heartbeat (taskId : String) : m.Settles ⟨id, now, .heartbeat taskId⟩ := by
  obtain ⟨hanswer, hstore, -⟩ := m.heartbeat_ledger now taskId
  refine m.settles_update now rfl hanswer hstore (c := 0) (fun _ => rfl) (fun _ => rfl)
    (fun t t' h => ?_) (fun t e h => ?_) (fun t t' h => ?_) ?_
  · rw [← Except.ok.inj h]
    rfl
  · cases h
  · rw [← Except.ok.inj h]
    exact Nat.le_of_eq (t.weight_touch now)
  · rw [Body.encode, Body.size_text]
    omega

lemma settles_list (name : String) : m.Settles ⟨id, now, .listTasks name⟩ := by
  have hstore := congrArg Service.store (m.list_ledger name)
  have hselect : ∀ p : Task → Bool, (m.list name).1 = .ok (m.store.select p) →
      m.Settles ⟨id, now, .listTasks name⟩ := by
    intro p hanswer
    refine settles_ok rfl hanswer hstore (m.store.select p) rfl rfl (Ledger.nodup_select p)
      (fun t ht => (Ledger.mem_select.mp ht).1) ?_
    simp only [cost]
    omega
  by_cases hempty : name = ""
  · subst hempty
    exact hselect _ rfl
  cases hparse : Status.parse name with
  | error e =>
      have hanswer : (m.list name).1 = .error e := by
        simp only [Service.list, if_neg hempty, hparse]
      refine settles_error rfl hanswer ?_ hstore
      simp only [cost, Body.encode, Body.size_text, Status.size_parse hparse]
      omega
  | ok status =>
      refine hselect (fun t => (some status).all (· = t.status)) ?_
      simp only [Service.list, if_neg hempty, hparse]
      rfl

/-- A message that is no request. -/
lemma settles_notRequest (m : Service Ledger) {r : TimedRequest}
    (h : m.handle r.id r.now r.message = (notRequest r.message, m)) : m.Settles r := by
  have hafter : (m.handled [r]).store = m.store := congrArg (fun x => x.2.store) h
  have hname : r.message.type.name.utf8ByteSize ≤ 17 := by cases r.message.type <;> decide
  have hrest : " is not a request".utf8ByteSize = 17 := by decide
  have hanswer : m.answer r
      = .status ⟨.unimplemented, r.message.type.name ++ " is not a request"⟩ := congrArg Prod.fst h
  refine ⟨.inl (refused_status hanswer ?_ (by rw [hafter])), ?_⟩
  · rw [String.utf8ByteSize_append, hrest, cost]
    omega
  · rw [hafter, cost]
    omega

/-- Every request is settled on the ledger. -/
theorem settles (m : Service Ledger) (r : TimedRequest) : m.Settles r := by
  obtain ⟨id, now, message⟩ := r
  cases message with
  | enqueue type payload metadata => exact m.settles_enqueue id now type payload metadata
  | dequeue worker => exact m.settles_dequeue id now worker
  | ack taskId success result => exact m.settles_ack id now taskId success result
  | listTasks name => exact m.settles_list id now name
  | heartbeat taskId => exact m.settles_heartbeat id now taskId
  | _ => exact m.settles_notRequest rfl

/-! ### Runs -/

variable {s : Service TaskStore} {m : Service Ledger} {requests : List TimedRequest}
  {r : TimedRequest}

/-- After a run all tasks take no more room than its requests cost. -/
lemma weight_handled_le (m : Service Ledger) (requests : List TimedRequest) :
    (m.handled requests).store.weight ≤ m.store.weight + (requests.map cost).sum := by
  induction requests using List.reverseRecOn with
  | nil => exact Nat.le_refl _
  | append_singleton requests r ih =>
      have hstep := ((m.handled requests).settles r).weight
      rw [← handled_append_singleton] at hstep
      rw [List.map_append, List.sum_append, List.map_singleton, List.sum_singleton]
      omega

/-- An answer on a ledger has a frame if all tasks leave room for what the request costs. -/
lemma Settles.accepts (h : m.Settles r) (hroom : m.store.weight + r.cost ≤ Frame.maxSize) :
    Frame.Accepts (m.answer r) := by
  obtain ⟨⟨-, st, -, hsize, haccepts⟩ | ⟨ts, hts⟩, hweight⟩ := h
  · rw [haccepts]
    omega
  · have hoverhead := (m.answer r).overhead_le
    have hsizes : (ts.map fun t => (WireTask.ofTask t).size).sum ≤ (ts.map Task.weight).sum :=
      List.sum_le_sum fun t _ => t.size_ofTask_le
    have hall := Ledger.sum_weight_le hts.ids hts.stored
    rw [hts.accepts]
    omega

/-- From a fresh store, every run of requests that names each new task anew leaves the tasks that it
leaves on the ledger. -/
lemma mirrors_handled (hfresh : s.store.IsFresh) (hids : (createdIds requests).Nodup) :
    (s.handled requests).Mirrors (s.onLedger.handled requests) := by
  rw [handled_eq_after, handled_eq_after]
  exact mirrors_after hfresh (by rwa [createdIds_call?])

/-- Such a run has no task under the id of the next one. -/
lemma get?_handled_eq_none (hfresh : s.store.IsFresh)
    (hids : (createdIds (requests ++ [r])).Nodup) (h : r.message.type = .enqueue) :
    (s.onLedger.handled requests).store.get? r.id = none := by
  rw [createdIds_append_singleton h, List.nodup_append] at hids
  obtain ⟨hbefore, -, hnew⟩ := hids
  have hmirrors := mirrors_handled hfresh hbefore
  rw [Option.eq_none_iff_forall_ne_some]
  intro t ht
  rw [handled_eq_after] at hmirrors
  have hmem := (hmirrors.reaches hfresh (by rwa [createdIds_call?])).created ht
  rw [createdIds_call?] at hmem
  exact hnew r.id hmem r.id List.mem_cons_self rfl

/-- From a fresh store, after every run of requests that names each new task anew, every request is
refused and changes nothing, or gets its response with tasks as they are stored then; and the answer
has a frame as long as all requests together cost no more than the greatest frame. -/
theorem answered_after (hfresh : s.store.IsFresh) (requests : List TimedRequest)
    (r : TimedRequest) (hids : (createdIds (requests ++ [r])).Nodup) :
    (r.Refused ((s.handled requests).answer r) (s.handled requests).store.task?
          (s.handled (requests ++ [r])).store.task? ∨
        ∃ ts, r.Responded ((s.handled requests).answer r)
          (s.handled (requests ++ [r])).store.task? ts) ∧
      (((requests ++ [r]).map cost).sum ≤ Frame.maxSize →
        Frame.Accepts ((s.handled requests).answer r)) := by
  have hbefore : (createdIds requests).Nodup := by
    refine hids.sublist ?_
    exact ((List.sublist_append_left requests [r]).filter _).map TimedRequest.id
  have hmirrors := mirrors_handled hfresh hbefore
  obtain ⟨hanswer, hafter⟩ := hmirrors.handled r (get?_handled_eq_none hfresh hids)
  have hsettles := (s.onLedger.handled requests).settles r
  have hstored : (s.handled requests).store.task? = (s.onLedger.handled requests).store.get? :=
    funext hmirrors.store.task?_eq
  have hstored' : ((s.handled requests).handled [r]).store.task?
      = ((s.onLedger.handled requests).handled [r]).store.get? :=
    funext hafter.store.task?_eq
  rw [handled_append_singleton, hanswer, hstored, hstored']
  refine ⟨hsettles.answered, fun hcost => hsettles.accepts ?_⟩
  have hweight := s.onLedger.weight_handled_le requests
  rw [List.map_append, List.sum_append, List.map_singleton, List.sum_singleton] at hcost
  have hempty : s.onLedger.store.weight = 0 := Ledger.weight_empty
  omega

/-- A task finished successfully with a result. -/
def completed (t : Task) (result : String) (now : Timestamp) : Task :=
  { t with status := .completed, result := some result, worker := none, updatedAt := now }

/-- An ack with a result stores it, and the response carries it. -/
lemma Mirrors.answer_ack (h : s.Mirrors m) {t : Task} (ht : m.store.get? t.id = some t)
    (hopen : t.status.isTerminal = false) {result : String} (hresult : result ≠ "")
    (id : String) (now : Timestamp) :
    s.answer ⟨id, now, .ack t.id true result⟩ = .acked (.ofTask (completed t result now)) ∧
      (s.handled [⟨id, now, .ack t.id true result⟩]).store.task? t.id
        = some (completed t result now) := by
  obtain ⟨hanswer, hafter⟩ := h.handled ⟨id, now, .ack t.id true result⟩ (by simp [Message.type])
  obtain ⟨hacked, hstore, -⟩ := m.ack_ledger now t.id true (some result)
  have hfinish : t.finish true (some result) now = .ok (completed t result now) := by
    simp [Task.finish, hopen, hresult, completed]
  have hupdate : m.store.update t.id (fun t => t.finish true (some result) now)
      = (.ok (completed t result now), m.store.put (completed t result now)) := by
    simp only [Ledger.update, ht, hfinish]
  have hfilter : (some result |>.filter (· ≠ "")) = some result := by simp [hresult]
  have hreply : m.handle id now (.ack t.id true result)
      = reply (m.ack now t.id true (some result)) fun t => .acked (.ofTask t) := by
    rw [handle, hfilter]
  rw [hupdate] at hacked hstore
  constructor
  · rw [hanswer, answer, hreply, reply_ok hacked]
  · have hleft : (m.handled [⟨id, now, .ack t.id true result⟩]).store
        = (m.ack now t.id true (some result)).2.store := by
      change (m.handle id now (.ack t.id true result)).2.store = _
      rw [hreply, reply_snd]
    rw [hafter.store.task?_eq, hleft, hstore, Ledger.get?_put]
    exact if_pos rfl

/-- A queue over a table, with leases of ten milliseconds and two attempts. -/
def mailQueue : Service TaskStore := ⟨.table .empty, ⟨10, 2⟩, .none, .none⟩

/-- One task is created. -/
def mailRequest : TimedRequest :=
  ⟨"018bcfe5-6800-7000-8000-000000000000", 1700000000000, .enqueue "mail" "hello" []⟩

/-- The task that it creates. -/
def mail : Task :=
  ⟨"018bcfe5-6800-7000-8000-000000000000", "mail", "hello", ∅, .pending, 1700000000000,
    1700000000000, none, none, 0⟩

lemma size_completed_mail (result : String) (now : Timestamp) :
    (WireTask.ofTask (completed mail result now)).size = 124 + result.utf8ByteSize := by
  have hrest : 62 + mail.id.utf8ByteSize + mail.type.utf8ByteSize + mail.payload.utf8ByteSize
      + ((WireEntry.ofMetadata mail.metadata).map fun e => e.size).sum
      + Status.completed.name.utf8ByteSize = 116 := by decide
  change 62 + mail.id.utf8ByteSize + mail.type.utf8ByteSize + mail.payload.utf8ByteSize
      + ((WireEntry.ofMetadata mail.metadata).map fun e => e.size).sum
      + Status.completed.name.utf8ByteSize + (8 + result.utf8ByteSize) + 0 = _
  omega

/-- A result that leaves little room in a frame. -/
def longResult : String := String.ofList (List.replicate 11534282 'r')

/-- The task is finished with that result. -/
def longAck : TimedRequest := ⟨"", 1700000000000, .ack mail.id true longResult⟩

lemma size_longResult : longResult.utf8ByteSize = 11534282 := by
  have hsize : ∀ n : Nat, (String.ofList (List.replicate n 'r')).utf8ByteSize = n := by
    intro n
    rw [String.utf8ByteSize_ofList]
    induction n with
    | zero => rfl
    | succ n ih =>
        rw [List.replicate_succ, String.utf8Len_cons, ih]
        rfl
  exact hsize _

/-- The request has a frame and its result is stored, but the response has none. The request before
costs little, and its response has a frame. -/
theorem answered_longResult :
    mailQueue.store.IsFresh ∧ (createdIds ([mailRequest] ++ [longAck])).Nodup ∧
      (longAck.Refused ((mailQueue.handled [mailRequest]).answer longAck)
          (mailQueue.handled [mailRequest]).store.task?
          (mailQueue.handled ([mailRequest] ++ [longAck])).store.task? ∨
        ∃ ts, longAck.Responded ((mailQueue.handled [mailRequest]).answer longAck)
          (mailQueue.handled ([mailRequest] ++ [longAck])).store.task? ts) ∧
      Frame.Accepts longAck.message ∧
      ¬ Frame.Accepts ((mailQueue.handled [mailRequest]).answer longAck) ∧
      (mailQueue.handled ([mailRequest] ++ [longAck])).store.task? mail.id
        = some (completed mail longResult 1700000000000) ∧
      ([mailRequest].map cost).sum ≤ Frame.maxSize ∧
      Frame.Accepts (mailQueue.answer mailRequest) := by
  have hfresh : mailQueue.store.IsFresh := .table
  have hids : (createdIds ([mailRequest] ++ [longAck])).Nodup := by decide
  have hbefore : (createdIds [mailRequest]).Nodup := by decide
  have hcost : ([mailRequest].map cost).sum ≤ Frame.maxSize := by decide +kernel
  have hid : mail.id.utf8ByteSize = 36 := by decide
  have hresult : longResult ≠ "" := by
    intro h
    have hsize := size_longResult
    rw [h] at hsize
    exact absurd hsize (by decide)
  have hfind : (mailQueue.onLedger.handled [mailRequest]).store.get? mail.id = some mail := rfl
  obtain ⟨hanswer, hafter⟩ :=
    (mirrors_handled hfresh hbefore).answer_ack hfind rfl hresult "" 1700000000000
  change (mailQueue.handled [mailRequest]).answer longAck
    = .acked (.ofTask (completed mail longResult 1700000000000)) at hanswer
  refine ⟨hfresh, hids, (answered_after hfresh [mailRequest] longAck hids).1, ?_, ?_, hafter,
    hcost, (answered_after hfresh [] mailRequest hbefore).2 hcost⟩
  · have hsize : (Body.encode longAck.message).size = 11534335 := by
      change (Body.text mail.id ++ Body.nat 1 1 ++ Body.text longResult).size = _
      rw [ByteArray.size_append, ByteArray.size_append, Body.size_text, Body.size_text,
        Body.size_nat, hid, size_longResult]
    rw [Frame.accepts_iff, hsize]
    decide
  · have htasks : (Message.acked (.ofTask (completed mail longResult 1700000000000))).tasks.map
        (fun t => t.size)
          = [(WireTask.ofTask (completed mail longResult 1700000000000)).size] := rfl
    rw [hanswer, Frame.accepts_iff, @Message.size_response .ack _ rfl, htasks, size_completed_mail,
      size_longResult]
    decide

end Service

end LeaseQueue
