/-
Tasks as the fields of a hash, and back.

* `Layout.record`: the hash of a task;
* `Task.kept`: what a hash keeps of a task; an empty result or worker is none;
* `decode_record`: the hash of a task is read as what it keeps of the task;
* `record_insertAll_mutableFields`: writing the fields that change over the hash of a task gives the
  hash of the changed task;
* `get?_status_eq_iff`, `get?_updatedAt_eq_iff`: a guard tells one status from another and one
  update time from another.
-/
import LeaseQueue.Keyspace.Layout
import LeaseQueue.Proofs.Json.Texts

namespace LeaseQueue

/-! ### Written forms tell values apart -/

lemma Status.name_injective {a b : Status} : a.name = b.name ↔ a = b := by
  refine ⟨fun h => ?_, fun h => h ▸ rfl⟩
  have hname := Status.ofName?_name a
  rw [h, Status.ofName?_name] at hname
  exact (Option.some.inj hname).symm

lemma Decimal.text_toInt_inj {a b : Int64} :
    Decimal.text a.toInt = Decimal.text b.toInt ↔ a = b := by
  refine ⟨fun h => ?_, fun h => h ▸ rfl⟩
  have htext := Decimal.int64?_text a
  rw [h, Decimal.int64?_text] at htext
  exact (Option.some.inj htext).symm

/-! ### What a hash keeps -/

namespace Task

/-- The task as a hash keeps it: an empty result or worker is none. -/
def kept (t : Task) : Task :=
  { t with result := t.result.filter (· ≠ ""), worker := t.worker.filter (· ≠ "") }

/-- A task without empty texts in place of none. -/
structure Clean (t : Task) : Prop where
  result : t.result ≠ some ""
  worker : t.worker ≠ some ""

lemma filter_ne_empty_eq_self {o : Option String} (h : o ≠ some "") :
    o.filter (· ≠ "") = o := by
  cases o with
  | none => rfl
  | some s =>
      have hs : s ≠ "" := fun hs => h (hs ▸ rfl)
      simp [Option.filter, hs]

lemma filter_ne_empty_ne (o : Option String) : o.filter (· ≠ "") ≠ some "" := by
  cases o with
  | none => simp
  | some s =>
      intro h
      rw [Option.filter_eq_some_iff] at h
      simp at h

lemma Clean.kept_eq {t : Task} (h : t.Clean) : t.kept = t := by
  rw [kept, filter_ne_empty_eq_self h.result, filter_ne_empty_eq_self h.worker]

lemma clean_kept (t : Task) : t.kept.Clean :=
  ⟨filter_ne_empty_ne t.result, filter_ne_empty_ne t.worker⟩

@[simp] lemma kept_id (t : Task) : t.kept.id = t.id := rfl

@[simp] lemma kept_status (t : Task) : t.kept.status = t.status := rfl

@[simp] lemma kept_createdAt (t : Task) : t.kept.createdAt = t.createdAt := rfl

@[simp] lemma kept_updatedAt (t : Task) : t.kept.updatedAt = t.updatedAt := rfl

@[simp] lemma kept_attempts (t : Task) : t.kept.attempts = t.attempts := rfl

lemma sameIdentity_kept (t : Task) : SameIdentity t.kept t := ⟨rfl, rfl, rfl, rfl, rfl⟩

lemma SameIdentity.symm {a b : Task} (h : SameIdentity a b) : SameIdentity b a :=
  ⟨h.1.symm, h.2.1.symm, h.2.2.1.symm, h.2.2.2.1.symm, h.2.2.2.2.symm⟩

lemma SameIdentity.trans {a b c : Task} (h : SameIdentity a b) (h' : SameIdentity b c) :
    SameIdentity a c :=
  ⟨h.1.trans h'.1, h.2.1.trans h'.2.1, h.2.2.1.trans h'.2.2.1, h.2.2.2.1.trans h'.2.2.2.1,
    h.2.2.2.2.trans h'.2.2.2.2⟩

/-- A new task waits under its own id, and a hash keeps it as it is. -/
lemma of_new {id type payload : String} {now : Timestamp} {metadata : Metadata} {t : Task}
    (h : new id now type payload metadata = .ok t) :
    t.id = id ∧ t.status = .pending ∧ t.Clean := by
  unfold new at h
  split at h
  · simp at h
  · obtain rfl := Except.ok.inj h
    exact ⟨rfl, rfl, ⟨by simp, by simp⟩⟩

lemma Clean.claim {t : Task} (h : t.Clean) {worker : String} (hworker : worker ≠ "")
    (now : Timestamp) : (t.claim worker now).Clean :=
  ⟨h.result, fun heq => hworker (Option.some.inj heq)⟩

lemma clean_finish {t t' : Task} {success : Bool} {result : Option String} {now : Timestamp}
    (h : t.finish success result now = .ok t') : t'.Clean := by
  unfold finish at h
  split at h
  · simp at h
  · obtain rfl := Except.ok.inj h
    exact ⟨filter_ne_empty_ne result, by simp⟩

lemma Clean.expire {t : Task} (h : t.Clean) (maxAttempts : UInt32) (now : Timestamp) :
    (t.expire maxAttempts now).Clean := by
  unfold Task.expire
  split
  · exact ⟨by simp [exhaust, attemptsExceeded], by simp [exhaust]⟩
  · exact ⟨h.result, by simp [requeue]⟩

lemma Clean.touch {t : Task} (h : t.Clean) (now : Timestamp) : (t.touch now).Clean :=
  ⟨h.result, h.worker⟩

end Task

namespace Layout

/-- The hash of a task. -/
def record (t : Task) : SortedMap String := SortedMap.empty.insertAll (fields t)

/-! ### Fields of a hash -/

section Fields

variable (t : Task)

/-- The hash of a task binds its fields. -/
lemma get?_record (name : String) :
    (record t).get? name = SortedMap.lookup name (fields t).reverse := by
  rw [record, SortedMap.get?_insertAll, SortedMap.get?_empty, Option.or_none]

/-- The ten fields one by one. -/
lemma get?_record_fields :
    (record t).get? "id" = some t.id ∧ (record t).get? "type" = some t.type ∧
      (record t).get? "payload" = some t.payload ∧
      (record t).get? "metadata" = some (Json.ofTexts t.metadata).write ∧
      (record t).get? "status" = some t.status.name ∧
      (record t).get? "created_at" = some (Decimal.text t.createdAt.toInt) ∧
      (record t).get? "updated_at" = some (Decimal.text t.updatedAt.toInt) ∧
      (record t).get? "result" = some (t.result.getD "") ∧
      (record t).get? "worker_id" = some (t.worker.getD "") ∧
      (record t).get? "attempts" = some (Decimal.text t.attempts.toNat) := by
  simp [get?_record, fields, mutableFields, SortedMap.lookup]

lemma get?_record_status : (record t).get? "status" = some t.status.name :=
  (get?_record_fields t).2.2.2.2.1

lemma get?_record_updatedAt :
    (record t).get? "updated_at" = some (Decimal.text t.updatedAt.toInt) :=
  (get?_record_fields t).2.2.2.2.2.2.1

lemma record_ne_empty : record t ≠ SortedMap.empty := by
  intro h
  have hstatus := get?_record_status t
  rw [h, SortedMap.get?_empty] at hstatus
  simp at hstatus

/-- An absent text and the empty text are read alike. -/
lemma presentText_getD (o : Option String) : presentText (o.getD "") = o.filter (· ≠ "") := by
  cases o with
  | none => rfl
  | some s => by_cases hs : s = "" <;> simp [presentText, Option.filter, hs]

/-- The hash of a task is read as what it keeps of the task. -/
lemma decode_record (key : String) : decode key (record t) = .ok t.kept := by
  obtain ⟨hid, htype, hpayload, hmetadata, hstatus, hcreated, hupdated, hresult, hworker,
    hattempts⟩ := get?_record_fields t
  simp only [decode, requiredField, SortedMap.getD_eq, hid, htype, hpayload, hmetadata, hstatus,
    hcreated, hupdated, hresult, hworker, hattempts, Option.getD_some]
  simp only [bind, Except.bind, readMetadata, Json.parse?_bind_asTexts?, readStatus,
    Status.ofName?_name, readField, Decimal.int64?_text, Decimal.uint32?_text, presentText_getD]
  rfl

lemma decode?_record (key : String) : decode? key (record t) = .ok (some t.kept) := by
  have hne : (record t).isEmpty = false := by
    rw [Bool.eq_false_iff]
    intro h
    exact record_ne_empty t (SortedMap.isEmpty_iff.mp h)
  rw [decode?, hne, decode_record]
  rfl

lemma decode?_empty (key : String) : decode? key SortedMap.empty = .ok none := rfl

/-- A hash does not tell a task from what it keeps of it. -/
lemma record_kept : record t.kept = record t := by
  have hgetD : ∀ o : Option String, (o.filter (· ≠ "")).getD "" = o.getD "" := by
    intro o
    cases o with
    | none => rfl
    | some s => by_cases hs : s = "" <;> simp [Option.filter, hs]
  have hfields : fields t.kept = fields t := by
    simp only [fields, mutableFields, Task.kept, hgetD]
  rw [record, hfields, record]

end Fields

/-! ### Writing what changes -/

/-- Writing the fields that change over the hash of a task gives the hash of the changed task. -/
lemma record_insertAll_mutableFields {t t' : Task} (h : Task.SameIdentity t' t) :
    (record t).insertAll (mutableFields t') = record t' := by
  obtain ⟨hid, htype, hpayload, hmetadata, hcreated⟩ := h
  have hsplit : record t = (SortedMap.empty.insertAll
      [("id", t'.id), ("type", t'.type), ("payload", t'.payload),
       ("metadata", (Json.ofTexts t'.metadata).write),
       ("created_at", Decimal.text t'.createdAt.toInt)]).insertAll (mutableFields t) := by
    rw [record, fields, hid, htype, hpayload, hmetadata, hcreated, SortedMap.insertAll,
      List.foldl_append]
    rfl
  have hsplit' : record t' = (SortedMap.empty.insertAll
      [("id", t'.id), ("type", t'.type), ("payload", t'.payload),
       ("metadata", (Json.ofTexts t'.metadata).write),
       ("created_at", Decimal.text t'.createdAt.toInt)]).insertAll (mutableFields t') := by
    rw [record, fields, SortedMap.insertAll, List.foldl_append]
    rfl
  rw [hsplit, hsplit']
  refine SortedMap.ext_get? fun k => ?_
  rw [SortedMap.get?_insertAll, SortedMap.get?_insertAll _ (mutableFields t),
    SortedMap.get?_insertAll _ (mutableFields t')]
  simp only [mutableFields, List.reverse_cons, List.reverse_nil, List.nil_append,
    List.cons_append, SortedMap.lookup]
  split_ifs <;> rfl

/-! ### Guards -/

lemma get?_status_eq_iff {t : Task} {s : Status} :
    (record t).get? "status" = some s.name ↔ t.status = s := by
  rw [get?_record_status, Option.some_inj, Status.name_injective]

lemma get?_updatedAt_eq_iff {t : Task} {u : Timestamp} :
    (record t).get? "updated_at" = some (Decimal.text u.toInt) ↔ t.updatedAt = u := by
  rw [get?_record_updatedAt, Option.some_inj, Decimal.text_toInt_inj]

end Layout

end LeaseQueue
