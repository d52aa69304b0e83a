/-
How many bytes messages take.

* `WireTask.size`, `Body.size_task`: the bytes of a task, from its texts;
* `Message.tasks`, `Message.overhead`: the tasks that a message carries, and the bytes that a
  response takes besides them;
* `Message.size_response`, `Message.size_status`: the bytes of responses and of failed calls;
* `Frame.Accepts`, `Frame.accepts_iff`: which messages fit in a frame.
-/
import LeaseQueue.Proofs.Wire.Reader
import LeaseQueue.Wire.Frame

namespace LeaseQueue

/-! ### Sizes -/

/-- The bytes of a tag. -/
def WireEntry.size (e : WireEntry) : Nat := 16 + e.key.utf8ByteSize + e.value.utf8ByteSize

/-- The bytes of an optional text behind its mark. -/
def WireTask.optionalSize : Option String → Nat
  | none => 0
  | some s => 8 + s.utf8ByteSize

/-- The bytes of a task. -/
def WireTask.size (t : WireTask) : Nat :=
  62 + t.id.utf8ByteSize + t.type.utf8ByteSize + t.payload.utf8ByteSize +
    (t.metadata.map fun e => e.size).sum + t.status.utf8ByteSize +
    WireTask.optionalSize t.result + WireTask.optionalSize t.worker

/-- The tasks that a message carries. -/
def Message.tasks : Message → List WireTask
  | .enqueued t | .acked t | .refreshed t => [t]
  | .dequeued _ t => t.toList
  | .listed l => l
  | _ => []

/-- The bytes of a response besides those of its tasks: its kind, and the marks or the length before
the tasks. -/
def Message.overhead : Message → Nat
  | .dequeued _ _ => 3
  | .listed _ => 9
  | _ => 1

lemma Message.overhead_le (m : Message) : m.overhead ≤ 9 := by cases m <;> simp [overhead]

/-- The kind of the response to a request. -/
def MessageType.response? : MessageType → Option MessageType
  | enqueue => some enqueueResponse
  | dequeue => some dequeueResponse
  | ack => some ackResponse
  | listTasks => some listTasksResponse
  | heartbeat => some heartbeatResponse
  | _ => none

namespace Body

/-! ### Bodies -/

lemma size_text (s : String) : (text s).size = 8 + s.utf8ByteSize := by
  rw [text, ByteArray.size_append, size_nat]
  rfl

lemma size_option_text (o : Option String) :
    (option text o).size = 1 + WireTask.optionalSize o := by
  cases o with
  | none => rw [option, size_nat]; rfl
  | some s => rw [option, ByteArray.size_append, size_nat, size_text]; rfl

lemma size_joined {α : Type} (write : α → ByteArray) (l : List α) :
    (joined write l).size = (l.map fun a => (write a).size).sum := by
  induction l with
  | nil => rfl
  | cons a l ih => rw [joined, ByteArray.size_append, ih, List.map_cons, List.sum_cons]

lemma size_list {α : Type} (write : α → ByteArray) (l : List α) :
    (list write l).size = 8 + (l.map fun a => (write a).size).sum := by
  rw [list_eq, ByteArray.size_append, size_nat, size_joined]

lemma size_entry (e : WireEntry) : (entry e).size = e.size := by
  rw [entry, ByteArray.size_append, size_text, size_text, WireEntry.size]
  omega

theorem size_task (t : WireTask) : (task t).size = t.size := by
  simp only [task, ByteArray.size_append, size_text, size_list, size_entry, size_option_text, int64,
    int32, size_nat, WireTask.size]
  omega

end Body

/-! ### Frames -/

/-- A response takes the bytes of its tasks and few more. -/
theorem Message.size_response {kind : MessageType} {m : Message}
    (h : kind.response? = some m.type) :
    1 + (Body.encode m).size = m.overhead + (m.tasks.map fun t => t.size).sum := by
  cases m with
  | enqueued t | acked t | refreshed t =>
      simp [Body.encode, Body.size_task, overhead, tasks]
  | dequeued hasTask t =>
      have hmark : (Body.bool hasTask).size = 1 := Body.size_nat 1 _
      rw [Body.encode, ByteArray.size_append, hmark]
      cases t with
      | none => rw [Body.option, Body.size_nat]; rfl
      | some t =>
          rw [Body.option, ByteArray.size_append, Body.size_nat, Body.size_task]
          simp only [overhead, tasks, Option.toList_some, List.map_singleton, List.sum_singleton]
          omega
  | listed l =>
      simp only [Body.encode, Body.size_list, Body.size_task, overhead, tasks]
      omega
  | _ => cases kind <;> simp [MessageType.response?, Message.type] at h

/-- A failed call takes the bytes of its wording and few more. -/
theorem Message.size_status (s : CallStatus) :
    1 + (Body.encode (.status s)).size = 13 + s.message.utf8ByteSize := by
  rw [Body.encode, Body.status, ByteArray.size_append, Body.size_nat, Body.size_text]
  omega

namespace Frame

/-- A message has a frame. -/
def Accepts (m : Message) : Prop := ∃ bytes, encode m = .ok bytes

/-- A message has a frame exactly when its kind and its body fit. -/
theorem accepts_iff {m : Message} : Accepts m ↔ 1 + (Body.encode m).size ≤ maxSize := by
  rw [Accepts, encode]
  constructor
  · rintro ⟨bytes, h⟩
    split_ifs at h with hlarge
    exact Nat.le_of_not_lt hlarge
  · intro hle
    exact ⟨_, if_neg (Nat.not_lt_of_le hle)⟩

end Frame

end LeaseQueue
