/-
Which hashes are read as tasks.

* `Layout.Reads`: the fields of a hash write a task, in any form that can be read;
* `Layout.decode_eq_ok_iff`: these are the hashes that are read as the task;
* `Layout.corrupts_decode`: any other hash is reported as corrupted;
* `Layout.Reads.insertAll_mutableFields`: over a hash that reads as a task, the fields that change
  write the changed task.
-/
import LeaseQueue.Proofs.Record.Hash

namespace LeaseQueue.Layout

variable {key name : String} {hash : SortedMap String} {t : Task}

/-! ### Steps of a reading -/

lemma bind_eq_ok {ε α β : Type} {x : Except ε α} {f : α → Except ε β} {b : β} :
    x >>= f = .ok b ↔ ∃ a, x = .ok a ∧ f a = .ok b := by
  cases x with
  | error e => simp [bind, Except.bind]
  | ok a => simp [bind, Except.bind]

lemma requiredField_eq_ok {v : String} :
    requiredField key hash name = .ok v ↔ hash.get? name = some v := by
  unfold requiredField
  split <;> simp_all

lemma readField_eq_ok {α : Type} {text : String} {value : Option α} {v : α} :
    readField key name text value = .ok v ↔ value = some v := by
  unfold readField
  split <;> simp_all

lemma readMetadata_eq_ok {text : String} {m : Metadata} :
    readMetadata key text = .ok m ↔ (Json.parse? text).bind Json.asTexts? = some m := by
  unfold readMetadata
  split
  · rename_i heq
    rw [heq, Except.ok.injEq, Option.some_inj]
  · rename_i heq
    simp [heq]

lemma readStatus_eq_ok {text : String} {s : Status} :
    readStatus key text = .ok s ↔ text = s.name := by
  have hname : Status.ofName? text = some s ↔ text = s.name :=
    ⟨fun h => (Status.name_of_ofName? h).symm, fun h => h ▸ Status.ofName?_name s⟩
  rw [← hname]
  unfold readStatus
  split <;> simp_all

/-! ### Readable hashes -/

/-- The fields of a hash write a task, in any form that can be read. -/
structure Reads (hash : SortedMap String) (t : Task) : Prop where
  id : hash.get? "id" = some t.id
  type : hash.get? "type" = some t.type
  payload : hash.get? "payload" = some t.payload
  metadata : ∃ text, hash.get? "metadata" = some text ∧
    (Json.parse? text).bind Json.asTexts? = some t.metadata
  status : hash.get? "status" = some t.status.name
  createdAt : ∃ text, hash.get? "created_at" = some text ∧ Decimal.int64? text = some t.createdAt
  updatedAt : ∃ text, hash.get? "updated_at" = some text ∧ Decimal.int64? text = some t.updatedAt
  result : t.result = presentText (hash.getD "result" "")
  worker : t.worker = presentText (hash.getD "worker_id" "")
  attempts : Decimal.uint32? (hash.getD "attempts" "0") = some t.attempts

/-- The hashes that are read as a task. -/
lemma decode_eq_ok_iff : decode key hash = .ok t ↔ Reads hash t := by
  simp only [decode, bind_eq_ok, requiredField_eq_ok, readField_eq_ok, readMetadata_eq_ok,
    readStatus_eq_ok]
  constructor
  · rintro ⟨id, hid, type, htype, payload, hpayload, metadata, hmetadata, status, hstatus,
      created, hcreated, updated, hupdated, tags, htags, s, rfl, createdAt, hcreatedAt, updatedAt,
      hupdatedAt, attempts, hattempts, ht⟩
    cases ht
    exact ⟨hid, htype, hpayload, ⟨metadata, hmetadata, htags⟩, hstatus,
      ⟨created, hcreated, hcreatedAt⟩, ⟨updated, hupdated, hupdatedAt⟩, rfl, rfl, hattempts⟩
  · rintro ⟨hid, htype, hpayload, ⟨metadata, hmetadata, htags⟩, hstatus,
      ⟨created, hcreated, hcreatedAt⟩, ⟨updated, hupdated, hupdatedAt⟩, hresult, hworker,
      hattempts⟩
    refine ⟨_, hid, _, htype, _, hpayload, _, hmetadata, _, hstatus, _, hcreated, _, hupdated, _,
      htags, _, rfl, _, hcreatedAt, _, hupdatedAt, _, hattempts, ?_⟩
    rw [← hresult, ← hworker]
    rfl

/-- A hash is read as a task under the id that it names. -/
lemma get?_id_of_decode (h : decode key hash = .ok t) : hash.get? "id" = some t.id :=
  (decode_eq_ok_iff.mp h).id

/-- If the reading fails, it says that its key is corrupted. -/
def Corrupts {α : Type} (key : String) : Except StoreError α → Prop
  | .ok _ => True
  | .error e => ∃ reason, e = .corrupted key reason

lemma Corrupts.bind {α β : Type} {x : Except StoreError α} {f : α → Except StoreError β}
    (hx : Corrupts key x) (hf : ∀ a, Corrupts key (f a)) : Corrupts key (x >>= f) := by
  cases x with
  | error e => exact hx
  | ok a => exact hf a

lemma corrupts_requiredField (key name : String) (hash : SortedMap String) :
    Corrupts key (requiredField key hash name) := by
  unfold requiredField
  split
  exacts [trivial, ⟨_, rfl⟩]

lemma corrupts_readField {α : Type} (key name text : String) (value : Option α) :
    Corrupts key (readField key name text value) := by
  unfold readField
  split
  exacts [trivial, ⟨_, rfl⟩]

lemma corrupts_readMetadata (key text : String) : Corrupts key (readMetadata key text) := by
  unfold readMetadata
  split
  exacts [trivial, ⟨_, rfl⟩]

lemma corrupts_readStatus (key text : String) : Corrupts key (readStatus key text) := by
  unfold readStatus
  split
  exacts [trivial, ⟨_, rfl⟩]

/-- A hash that is read as no task is reported as corrupted. -/
lemma corrupts_decode (key : String) (hash : SortedMap String) : Corrupts key (decode key hash) :=
  .bind (corrupts_requiredField ..) fun _ => .bind (corrupts_requiredField ..) fun _ =>
    .bind (corrupts_requiredField ..) fun _ => .bind (corrupts_requiredField ..) fun _ =>
    .bind (corrupts_requiredField ..) fun _ => .bind (corrupts_requiredField ..) fun _ =>
    .bind (corrupts_requiredField ..) fun _ => .bind (corrupts_readMetadata ..) fun _ =>
    .bind (corrupts_readStatus ..) fun _ => .bind (corrupts_readField ..) fun _ =>
    .bind (corrupts_readField ..) fun _ => .bind (corrupts_readField ..) fun _ => trivial

/-! ### Writing what changes -/

/-- Over a hash that reads as a task, the fields that change write the changed task. -/
lemma Reads.insertAll_mutableFields {t' : Task} (h : Reads hash t) (hsame : t'.SameIdentity t) :
    Reads (hash.insertAll (mutableFields t')) t'.kept := by
  obtain ⟨hid, htype, hpayload, hmetadata, hcreated⟩ := hsame
  have hget (name : String) : (hash.insertAll (mutableFields t')).get? name
      = (if name = "attempts" then some (Decimal.text t'.attempts.toNat)
        else if name = "worker_id" then some (t'.worker.getD "")
        else if name = "result" then some (t'.result.getD "")
        else if name = "updated_at" then some (Decimal.text t'.updatedAt.toInt)
        else if name = "status" then some t'.status.name else none).or (hash.get? name) :=
    SortedMap.get?_insertAll ..
  constructor
  · simpa [hget, hid] using h.id
  · simpa [hget, Task.kept, htype] using h.type
  · simpa [hget, Task.kept, hpayload] using h.payload
  · simpa [hget, Task.kept, hmetadata] using h.metadata
  · simp [hget]
  · simpa [hget, hcreated] using h.createdAt
  · exact ⟨Decimal.text t'.updatedAt.toInt, by simp [hget], Decimal.int64?_text _⟩
  · simp [SortedMap.getD_eq, hget, presentText_getD, Task.kept]
  · simp [SortedMap.getD_eq, hget, presentText_getD, Task.kept]
  · simp [SortedMap.getD_eq, hget, Decimal.uint32?_text]

end LeaseQueue.Layout
