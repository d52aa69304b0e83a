/-
Bodies of messages, read back.

* `reads_entry`, `reads_task`, `reads_status`: tags, tasks and failed calls;
* `message_eq_ok`: messages of all kinds;
* `decode_eq_ok_iff`: the messages of a kind that a body holds, whatever follows their last field.
-/
import LeaseQueue.Proofs.Wire.Reader

namespace LeaseQueue

lemma StatusCode.ofIndex?_eq_some_iff {n : Nat} {code : StatusCode} :
    StatusCode.ofIndex? n = some code ↔ n = code.index := by
  constructor
  · intro h
    obtain ⟨hlt, rfl⟩ := List.getElem?_eq_some_iff.mp h
    have hlt : n < 6 := hlt
    interval_cases n <;> rfl
  · rintro rfl
    cases code <;> rfl

namespace Body

namespace Reader

variable {α β : Type} {bytes : ByteArray} {place next : Nat}

/-- A value built from one that is read exactly. -/
lemma Reads.bind_pure_eq_ok {read : Reader α} {write : α → ByteArray} (h : Reads read write)
    (hsize : bytes.size < 2 ^ 64) {f : α → β} {b : β} :
    (read >>= fun a => Pure.pure (f a)) bytes place = .ok (b, next) ↔
      ∃ a, f a = b ∧ Occurs bytes place (write a) next := by
  rw [bind_eq_ok]
  constructor
  · rintro ⟨a, mid, ha, hpure⟩
    obtain ⟨rfl, rfl⟩ := pure_eq_ok.mp hpure
    exact ⟨a, rfl, (h.eq_ok_iff hsize).mp ha⟩
  · rintro ⟨a, rfl, ha⟩
    exact ⟨a, next, (h.eq_ok_iff hsize).mpr ha, pure_eq_ok.mpr ⟨rfl, rfl⟩⟩

/-! ### Tags, tasks and failed calls -/

theorem reads_entry : Reads entry Body.entry where
  eq_ok_iff {bytes place e next} hsize := by
    simp only [entry, Body.entry, bind_eq_ok, pure_eq_ok, reads_text.eq_ok_iff hsize,
      occurs_append]
    constructor
    · rintro ⟨key, mid, hkey, value, _, hvalue, rfl, rfl⟩
      exact ⟨mid, hkey, hvalue⟩
    · rintro ⟨mid, hkey, hvalue⟩
      exact ⟨e.key, mid, hkey, e.value, next, hvalue, rfl, rfl⟩

lemma size_entry_pos (e : WireEntry) : 0 < (Body.entry e).size := by
  simp only [Body.entry, Body.text, ByteArray.size_append, size_nat]
  omega

theorem reads_task : Reads task Body.task where
  eq_ok_iff {bytes place t next} hsize := by
    simp only [task, Body.task, bind_eq_ok, pure_eq_ok, reads_text.eq_ok_iff hsize,
      reads_int64.eq_ok_iff hsize, reads_int32.eq_ok_iff hsize,
      (reads_text.option).eq_ok_iff hsize, (reads_entry.list size_entry_pos).eq_ok_iff hsize,
      ByteArray.append_assoc, occurs_append]
    constructor
    · rintro ⟨id, p₁, hid, type, p₂, htype, payload, p₃, hpayload, metadata, p₄, hmetadata,
        status, p₅, hstatus, createdAt, p₆, hcreated, updatedAt, p₇, hupdated, result, p₈, hresult,
        worker, p₉, hworker, attempts, _, hattempts, rfl, rfl⟩
      exact ⟨p₁, hid, p₂, htype, p₃, hpayload, p₄, hmetadata, p₅, hstatus, p₆, hcreated, p₇,
        hupdated, p₈, hresult, p₉, hworker, hattempts⟩
    · rintro ⟨p₁, hid, p₂, htype, p₃, hpayload, p₄, hmetadata, p₅, hstatus, p₆, hcreated, p₇,
        hupdated, p₈, hresult, p₉, hworker, hattempts⟩
      exact ⟨_, p₁, hid, _, p₂, htype, _, p₃, hpayload, _, p₄, hmetadata, _, p₅, hstatus, _, p₆,
        hcreated, _, p₇, hupdated, _, p₈, hresult, _, p₉, hworker, _, next, hattempts, rfl, rfl⟩

lemma size_task_pos (t : WireTask) : 0 < (Body.task t).size := by
  simp only [Body.task, Body.text, ByteArray.size_append, size_nat]
  omega

theorem reads_status : Reads status Body.status where
  eq_ok_iff {bytes place s next} hsize := by
    rw [status, bind_eq_ok, Body.status, occurs_append]
    constructor
    · rintro ⟨n, mid, hn, hstatus⟩
      obtain ⟨-, hn⟩ := nat_eq_ok.mp hn
      cases hcode : StatusCode.ofIndex? n with
      | none => simp [hcode, fail_ne_ok] at hstatus
      | some code =>
          simp only [hcode] at hstatus
          obtain ⟨message, rfl, hmessage⟩ := (reads_text.bind_pure_eq_ok hsize).mp hstatus
          obtain rfl := StatusCode.ofIndex?_eq_some_iff.mp hcode
          exact ⟨mid, hn, hmessage⟩
    · rintro ⟨mid, hn, hmessage⟩
      have hlt : s.code.index < 256 ^ 4 := by cases s.code <;> decide
      refine ⟨s.code.index, mid, nat_eq_ok.mpr ⟨hlt, hn⟩, ?_⟩
      rw [StatusCode.ofIndex?_eq_some_iff.mpr rfl]
      exact (reads_text.bind_pure_eq_ok hsize).mpr ⟨s.message, rfl, hmessage⟩

/-! ### Messages -/

/-- A message of a kind is read exactly where its body stands. -/
theorem message_eq_ok {type : MessageType} {m : Message} (hsize : bytes.size < 2 ^ 64) :
    message type bytes place = .ok (m, next) ↔
      m.type = type ∧ Occurs bytes place (encode m) next := by
  constructor
  · intro h
    cases type with
    | enqueue =>
        simp only [message, bind_eq_ok, pure_eq_ok, reads_text.eq_ok_iff hsize,
          (reads_entry.list size_entry_pos).eq_ok_iff hsize] at h
        obtain ⟨_, p₁, htype, _, p₂, hpayload, _, _, hmetadata, rfl, rfl⟩ := h
        exact ⟨rfl, occurs_append.mpr ⟨p₂, occurs_append.mpr ⟨p₁, htype, hpayload⟩, hmetadata⟩⟩
    | ack =>
        simp only [message, bind_eq_ok, pure_eq_ok, reads_text.eq_ok_iff hsize,
          reads_bool.eq_ok_iff hsize] at h
        obtain ⟨_, p₁, hid, _, p₂, hsuccess, _, _, hresult, rfl, rfl⟩ := h
        exact ⟨rfl, occurs_append.mpr ⟨p₂, occurs_append.mpr ⟨p₁, hid, hsuccess⟩, hresult⟩⟩
    | dequeueResponse =>
        simp only [message, bind_eq_ok, pure_eq_ok, reads_bool.eq_ok_iff hsize,
          reads_task.option.eq_ok_iff hsize] at h
        obtain ⟨_, p₁, hhas, _, _, htask, rfl, rfl⟩ := h
        exact ⟨rfl, occurs_append.mpr ⟨p₁, hhas, htask⟩⟩
    | dequeue | listTasks | heartbeat =>
        obtain ⟨_, rfl, htext⟩ := (reads_text.bind_pure_eq_ok hsize).mp h
        exact ⟨rfl, htext⟩
    | enqueueResponse | ackResponse | heartbeatResponse =>
        obtain ⟨_, rfl, htask⟩ := (reads_task.bind_pure_eq_ok hsize).mp h
        exact ⟨rfl, htask⟩
    | listTasksResponse =>
        obtain ⟨_, rfl, hlist⟩ := ((reads_task.list size_task_pos).bind_pure_eq_ok hsize).mp h
        exact ⟨rfl, hlist⟩
    | status =>
        obtain ⟨_, rfl, hstatus⟩ := (reads_status.bind_pure_eq_ok hsize).mp h
        exact ⟨rfl, hstatus⟩
  · rintro ⟨rfl, h⟩
    cases m with
    | enqueue type payload metadata =>
        simp only [encode, occurs_append] at h
        obtain ⟨p₂, ⟨p₁, htype, hpayload⟩, hmetadata⟩ := h
        simp only [message, Message.type, bind_eq_ok, pure_eq_ok, reads_text.eq_ok_iff hsize,
          (reads_entry.list size_entry_pos).eq_ok_iff hsize]
        exact ⟨type, p₁, htype, payload, p₂, hpayload, metadata, next, hmetadata, rfl, rfl⟩
    | ack id success result =>
        simp only [encode, occurs_append] at h
        obtain ⟨p₂, ⟨p₁, hid, hsuccess⟩, hresult⟩ := h
        simp only [message, Message.type, bind_eq_ok, pure_eq_ok, reads_text.eq_ok_iff hsize,
          reads_bool.eq_ok_iff hsize]
        exact ⟨id, p₁, hid, success, p₂, hsuccess, result, next, hresult, rfl, rfl⟩
    | dequeued hasTask t =>
        simp only [encode, occurs_append] at h
        obtain ⟨p₁, hhas, htask⟩ := h
        simp only [message, Message.type, bind_eq_ok, pure_eq_ok, reads_bool.eq_ok_iff hsize,
          reads_task.option.eq_ok_iff hsize]
        exact ⟨hasTask, p₁, hhas, t, next, htask, rfl, rfl⟩
    | dequeue s | listTasks s | heartbeat s =>
        exact (reads_text.bind_pure_eq_ok hsize).mpr ⟨s, rfl, h⟩
    | enqueued t | acked t | refreshed t =>
        exact (reads_task.bind_pure_eq_ok hsize).mpr ⟨t, rfl, h⟩
    | listed l =>
        exact ((reads_task.list size_task_pos).bind_pure_eq_ok hsize).mpr ⟨l, rfl, h⟩
    | status s => exact (reads_status.bind_pure_eq_ok hsize).mpr ⟨s, rfl, h⟩

end Reader

variable {bytes x : ByteArray}

/-- What stands at the start of bytes is followed by the rest of them. -/
lemma occurs_zero_iff : (∃ next, Occurs bytes 0 x next) ↔ ∃ junk, bytes = x ++ junk := by
  constructor
  · rintro ⟨next, hnext, hle, hextract⟩
    refine ⟨bytes.extract next bytes.size, ?_⟩
    rw [← hextract, ← ByteArray.extract_eq_extract_append_extract next (Nat.zero_le _) hle,
      ByteArray.extract_zero_size]
  · rintro ⟨junk, rfl⟩
    refine ⟨x.size, by rw [Nat.zero_add], ?_, ByteArray.extract_append_eq_left rfl⟩
    rw [ByteArray.size_append]
    omega

/-- A body holds a message of a kind exactly when it begins with what is written for the message. -/
theorem decode_eq_ok_iff {type : MessageType} {m : Message} (hsize : bytes.size < 2 ^ 64) :
    decode type bytes = .ok m ↔ m.type = type ∧ ∃ junk, bytes = encode m ++ junk := by
  rw [← occurs_zero_iff, decode]
  constructor
  · intro h
    rcases hread : Reader.message type bytes 0 with e | ⟨m', next⟩
    · rw [hread] at h
      cases h
    · rw [hread] at h
      obtain rfl := Except.ok.inj h
      obtain ⟨htype, hoccurs⟩ := (Reader.message_eq_ok hsize).mp hread
      exact ⟨htype, next, hoccurs⟩
  · rintro ⟨htype, next, hoccurs⟩
    rw [(Reader.message_eq_ok hsize).mpr ⟨htype, hoccurs⟩]
    rfl

end Body

end LeaseQueue
