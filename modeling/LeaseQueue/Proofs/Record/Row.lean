/-
Tasks as rows of a table, and back.

* `Row.Reads`, `Row.read_eq_ok_iff`: the rows whose cells have the kinds of their columns;
* `decode_ofTask`: the row of a task is read as the task, empty texts included;
* `save_ofTask`: writing what transitions change over the row of a task gives the row of the changed
  task; `decode_save`: so it is over any row that is read as the task;
* `rowLe_eq`, `rowLe_ofTask`: rows stand in queue order as their tasks do.
-/
import LeaseQueue.Table.Store
import LeaseQueue.Proofs.Record.Reading
import LeaseQueue.Proofs.Task.Order

namespace LeaseQueue

/-! ### Cells -/

namespace Cell

lemma lt_integer (a b : Int64) : (Cell.integer a).lt (.integer b) = decide (a < b) := by
  have h : (Cell.integer a).lt (.integer b) = decide (a.toInt * (1 : Nat) < b.toInt * (1 : Nat)) :=
    rfl
  rw [h]
  simp [Int64.lt_iff_toInt_lt]

lemma lt_text (s t : String) : (Cell.text s).lt (.text t) = decide (s < t) := rfl

end Cell

/-! ### Reading -/

namespace Row

variable {r : Row} {c : Column}

lemma readText_eq_ok {s : String} : r.readText c = .ok s ↔ r.get c = .text s := by
  unfold readText
  split <;> simp_all

lemma readInteger_eq_ok {n : Int64} : r.readInteger c = .ok n ↔ r.get c = .integer n := by
  unfold readInteger
  split <;> simp_all

lemma readOptionalText_eq_ok {o : Option String} :
    r.readOptionalText c = .ok o ↔ r.get c = optionalCell o := by
  unfold readOptionalText
  cases o <;> split <;> simp_all [optionalCell]

/-- A count is read from the whole number that writes it, and from no other cell. -/
lemma readCount_eq_ok {n : UInt32} :
    r.readCount c = .ok n ↔ r.get c = .integer (Int64.ofNat n.toNat) := by
  have hint : ∀ m : UInt32, (Int64.ofNat m.toNat).toInt = m.toNat :=
    fun m => Int64.toInt_ofNat_of_lt (Nat.lt_trans m.toNat_lt_size (by decide))
  have hlt := n.toNat_lt_size
  rw [readCount, Layout.bind_eq_ok]
  simp only [readInteger_eq_ok]
  constructor
  · rintro ⟨x, hx, hn⟩
    split_ifs at hn with hrange
    obtain rfl := Except.ok.inj hn
    have hnat : x.toInt.toNat < UInt32.size := by omega
    rw [hx, Cell.integer.injEq, ← Int64.toInt_inj, hint, UInt32.toNat_ofNat_of_lt' hnat]
    omega
  · intro hcell
    refine ⟨_, hcell, ?_⟩
    rw [hint, if_pos ⟨by omega, by exact_mod_cast hlt⟩]
    simp [pure, Except.pure]

/-- The cells of a row have the kinds of their columns and write a stored task. -/
structure Reads (r : Row) (s : StoredTask) : Prop where
  id : r.id = .text s.id
  type : r.type = .text s.type
  payload : r.payload = .text s.payload
  metadata : r.metadata = .text s.metadata
  status : r.status = .text s.status
  createdAt : r.createdAt = .integer s.createdAt
  updatedAt : r.updatedAt = .integer s.updatedAt
  result : r.result = optionalCell s.result
  worker : r.worker = optionalCell s.worker
  attempts : r.attempts = .integer (Int64.ofNat s.attempts.toNat)

/-- The rows that are read. -/
lemma read_eq_ok_iff {s : StoredTask} : r.read = .ok s ↔ r.Reads s := by
  simp only [read, Layout.bind_eq_ok, readText_eq_ok, readInteger_eq_ok, readOptionalText_eq_ok,
    readCount_eq_ok, get]
  constructor
  · rintro ⟨id, hid, type, htype, payload, hpayload, metadata, hmetadata, status, hstatus,
      createdAt, hcreated, updatedAt, hupdated, result, hresult, worker, hworker, attempts,
      hattempts, hs⟩
    cases hs
    exact ⟨hid, htype, hpayload, hmetadata, hstatus, hcreated, hupdated, hresult, hworker,
      hattempts⟩
  · rintro ⟨hid, htype, hpayload, hmetadata, hstatus, hcreated, hupdated, hresult, hworker,
      hattempts⟩
    exact ⟨_, hid, _, htype, _, hpayload, _, hmetadata, _, hstatus, _, hcreated, _, hupdated, _,
      hresult, _, hworker, _, hattempts, rfl⟩

end Row

/-- The cells of a task, each of the kind of its column. -/
def StoredTask.ofTask (t : Task) : StoredTask :=
  { id := t.id, type := t.type, payload := t.payload,
    metadata := (Json.ofTexts t.metadata).write, status := t.status.name,
    createdAt := t.createdAt, updatedAt := t.updatedAt, result := t.result, worker := t.worker,
    attempts := t.attempts }

lemma Row.read_ofTask (t : Task) : (ofTask t).read = .ok (StoredTask.ofTask t) :=
  read_eq_ok_iff.mpr ⟨rfl, rfl, rfl, rfl, rfl, rfl, rfl, rfl, rfl, rfl⟩

lemma StoredTask.decode_ofTask (t : Task) : (StoredTask.ofTask t).decode = .ok t := by
  simp only [StoredTask.decode, StoredTask.ofTask, Json.parse?_bind_asTexts?, Status.ofName?_name]

namespace Row

/-- The row of a task is read as the task. -/
lemma decode_ofTask (t : Task) : (ofTask t).decode = .ok t := by
  rw [decode, read_ofTask]
  exact StoredTask.decode_ofTask t

/-- A row that is read as a task holds its id, its status and its time of creation. -/
lemma cells_of_decode {r : Row} {t : Task} (h : r.decode = .ok t) :
    r.id = .text t.id ∧ r.status = .text t.status.name ∧ r.createdAt = .integer t.createdAt := by
  obtain ⟨s, hread, hdecode⟩ := Layout.bind_eq_ok.mp h
  have hs := read_eq_ok_iff.mp hread
  unfold StoredTask.decode at hdecode
  split at hdecode
  · cases hdecode
  · split at hdecode
    · cases hdecode
    · rename_i hstatus
      cases hdecode
      exact ⟨hs.id, hs.status.trans (congrArg _ (Status.name_of_ofName? hstatus).symm),
        hs.createdAt⟩

/-! ### Writing what changes -/

/-- Writing what transitions change over a row that is read as a task gives one that is read as the
changed task. -/
lemma decode_save {r : Row} {t t' : Task} (h : r.decode = .ok t) (hsame : t'.SameIdentity t) :
    (r.save t').decode = .ok t' := by
  obtain ⟨s, hread, hdecode⟩ := Layout.bind_eq_ok.mp h
  obtain ⟨hid, htype, hpayload, hmetadata, hcreated⟩ := hsame
  have hs := read_eq_ok_iff.mp hread
  have hread' : (r.save t').read = .ok { s with
      status := t'.status.name, updatedAt := t'.updatedAt, result := t'.result,
      worker := t'.worker, attempts := t'.attempts } :=
    read_eq_ok_iff.mpr ⟨hs.id, hs.type, hs.payload, hs.metadata, rfl, hs.createdAt, rfl, rfl, rfl,
      rfl⟩
  rw [decode, hread']
  change StoredTask.decode _ = _
  unfold StoredTask.decode at hdecode ⊢
  split at hdecode
  · cases hdecode
  · rename_i hparse
    split at hdecode
    · cases hdecode
    · cases hdecode
      cases t'
      cases hid; cases htype; cases hpayload; cases hmetadata; cases hcreated
      simp only [hparse, Status.ofName?_name]

/-- Writing what transitions change over the row of a task gives the row of the changed task. -/
lemma save_ofTask {t t' : Task} (h : Task.SameIdentity t' t) : (ofTask t).save t' = ofTask t' := by
  obtain ⟨hid, htype, hpayload, hmetadata, hcreated⟩ := h
  rw [save, ofTask, ofTask, hid, htype, hpayload, hmetadata, hcreated]

end Row

/-! ### Order -/

/-- Rows stand in queue order as the tasks whose times of creation and ids they hold. -/
lemma Table.rowLe_eq {r r' : Row} {t t' : Task} (hcreated : r.createdAt = .integer t.createdAt)
    (hid : r.id = .text t.id) (hcreated' : r'.createdAt = .integer t'.createdAt)
    (hid' : r'.id = .text t'.id) : Table.rowLe r r' = Task.le t t' := by
  rw [Bool.eq_iff_iff, Task.le_iff, Table.rowLe, hcreated, hid, hcreated', hid']
  simp only [Cell.lt_integer, Cell.lt_text, Bool.or_eq_true, Bool.and_eq_true, Bool.not_eq_true',
    decide_eq_true_eq, decide_eq_false_iff_not, String.not_lt, Int64.not_lt]
  constructor
  · rintro (h | ⟨h, hid⟩)
    · exact Or.inl h
    · rcases Int64.lt_or_eq_of_le h with hlt | heq
      · exact Or.inl hlt
      · exact Or.inr ⟨heq, hid⟩
  · rintro (h | ⟨h, hid⟩)
    · exact Or.inl h
    · exact Or.inr ⟨h ▸ Int64.le_refl _, hid⟩

/-- Rows stand in queue order as their tasks do. -/
lemma Table.rowLe_ofTask (a b : Task) :
    Table.rowLe (Row.ofTask a) (Row.ofTask b) = Task.le a b := rowLe_eq rfl rfl rfl rfl

end LeaseQueue
