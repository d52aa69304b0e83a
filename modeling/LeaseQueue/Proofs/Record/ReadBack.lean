/-
Stored tasks read back unchanged.

* `Task.kept_eq_iff`: a hash keeps a task as it is iff it has no empty text in place of none;
* `Row.store_get_ofTask`: the columns of the table take in the cells of a task as they are;
* `Keyspace.hash_written`, `Table.fetch_written`: a task that is written and then written over by a
  changed one, in a keyspace and in a table with any other data;
* `Task.ReadsBack`, `Task.readsBack`: what is read is what was written last, from a hash iff it has
  no empty text in place of none, and from a row always.
-/
import LeaseQueue.Proofs.Record.Row
import LeaseQueue.Proofs.Keyspace.View

namespace LeaseQueue

variable {t t' : Task}

/-! ### Hashes -/

/-- A hash keeps a task as it is iff it has no empty text in place of none. -/
lemma Task.kept_eq_iff : t.kept = t ↔ t.Clean :=
  ⟨fun h => h ▸ t.clean_kept, Clean.kept_eq⟩

lemma Layout.decode_record_eq_iff {key : String} : decode key (record t) = .ok t ↔ t.Clean := by
  rw [decode_record, Except.ok.injEq, Task.kept_eq_iff]

lemma Layout.decode?_record_eq_iff {key : String} :
    decode? key (record t) = .ok (some t) ↔ t.Clean := by
  rw [decode?_record, Except.ok.injEq, Option.some_inj, Task.kept_eq_iff]

namespace Keyspace

/-- The fields of a task under a key, and over them those that change of another task. -/
def written (ks : Keyspace) (key : String) (t t' : Task) : Keyspace :=
  (ks.apply (.hashSet key (Layout.fields t))).apply (.hashSet key (Layout.mutableFields t'))

/-- Under a key without fields that is the hash of the other task. -/
lemma hash_written {ks : Keyspace} {key : String} (hempty : ks.hash key = .empty)
    (hsame : t'.SameIdentity t) : (ks.written key t t').hash key = Layout.record t' := by
  simp only [written, hash_apply, if_true, hempty]
  exact Layout.record_insertAll_mutableFields hsame

end Keyspace

/-! ### Rows -/

lemma Affinity.store_optionalCell (o : Option String) :
    Affinity.text.store (Row.optionalCell o) = Row.optionalCell o := by
  cases o <;> rfl

/-- The columns of the table take in the cells of a task as they are. -/
lemma Row.store_get_ofTask (t : Task) (c : Column) :
    c.affinity.store ((ofTask t).get c) = (ofTask t).get c := by
  cases c with
  | result => exact Affinity.store_optionalCell t.result
  | worker => exact Affinity.store_optionalCell t.worker
  | _ => rfl

namespace Table

/-- The row of a task after all others, and what changes of another task written over it. -/
def written (tb : Table) (t t' : Task) : Table := (Table.mk (tb.rows ++ [Row.ofTask t])).save t'

/-- For a new id that is the row of the other task. -/
lemma rowOf?_written {tb : Table} (hnew : tb.rowOf? t.id = none) (hsame : t'.SameIdentity t) :
    (tb.written t t').rowOf? t.id = some (Row.ofTask t') := by
  have hid : ∀ r : Row,
      (if r.id == .text t'.id then r.save t' else r).id = r.id := by
    intro r
    split_ifs <;> rfl
  have hself : ((Row.ofTask t).id == .text t.id) = true := beq_self_eq_true (Cell.text t.id)
  simp only [written, save, rowOf?, List.find?_map, Function.comp_def, hid, List.find?_append]
  rw [show tb.rows.find? (fun r => r.id == .text t.id) = none from hnew, Option.none_or,
    List.find?_singleton, if_pos hself, Option.map_some, hsame.1, if_pos hself,
    Row.save_ofTask hsame]

lemma fetch_written {tb : Table} (hnew : tb.rowOf? t.id = none) (hsame : t'.SameIdentity t) :
    (tb.written t t').fetch t.id = .ok (some t') := by
  rw [fetch, rowOf?_written hnew hsame]
  change (Row.ofTask t').decode.map some = _
  rw [Row.decode_ofTask]
  rfl

end Table

/-! ### Reading back -/

namespace Task

/-- What is read of a task that is written, and of another one that is written over it. -/
structure ReadsBack (t t' : Task) : Prop where
  hash : ∀ key, Layout.decode key (Layout.record t) = .ok t ↔ t.Clean
  overHash : ∀ key,
    Layout.decode key ((Layout.record t).insertAll (Layout.mutableFields t')) = .ok t' ↔ t'.Clean
  keyspace : ∀ (ks : Keyspace) key, ks.hash key = .empty →
    (Layout.decode? key ((ks.written key t t').hash key) = .ok (some t') ↔ t'.Clean)
  row : (Row.ofTask t).decode = .ok t
  overRow : ((Row.ofTask t).save t').decode = .ok t'
  table : ∀ tb : Table, tb.rowOf? t.id = none →
    (tb.written t t').fetch t.id = .ok (some t') ∧
      ∃ r, (tb.written t t').rowOf? t.id = some r ∧
        ∀ c : Column, c.affinity.store (r.get c) = r.get c

/-- What is read of a stored task is what was written last. -/
theorem readsBack (hsame : t'.SameIdentity t) : ReadsBack t t' where
  hash _ := Layout.decode_record_eq_iff
  overHash key := by
    rw [Layout.record_insertAll_mutableFields hsame]
    exact Layout.decode_record_eq_iff
  keyspace ks key hempty := by
    rw [Keyspace.hash_written hempty hsame]
    exact Layout.decode?_record_eq_iff
  row := Row.decode_ofTask t
  overRow := by
    rw [Row.save_ofTask hsame]
    exact Row.decode_ofTask t'
  table tb hnew :=
    ⟨Table.fetch_written hnew hsame, _, Table.rowOf?_written hnew hsame, Row.store_get_ofTask t'⟩

/-- A waiting task with texts that have to be escaped. -/
def escapedTask : Task :=
  { id := "a", type := "mail", payload := "\"\\\n\x00é😀", status := .pending
    metadata := .ofList [("", "\x1f"), ("k\"", "\\v\t")]
    createdAt := Int64.minValue, updatedAt := Int64.maxValue
    result := none, worker := none, attempts := 0 }

/-- The same task, leased and with an empty result. -/
def emptiedTask : Task :=
  { escapedTask with
    status := .inProgress, updatedAt := -1, result := some "", worker := some "w"
    attempts := 0xFFFFFFFF }

/-- The empty result is lost in a hash, and in a row it is not. -/
theorem readsBack_emptiedTask :
    emptiedTask.SameIdentity escapedTask ∧ ReadsBack escapedTask emptiedTask ∧
      escapedTask.Clean ∧ ¬ emptiedTask.Clean := by
  have hsame : emptiedTask.SameIdentity escapedTask := ⟨rfl, rfl, rfl, rfl, rfl⟩
  exact ⟨hsame, readsBack hsame, ⟨nofun, nofun⟩, fun h => h.result rfl⟩

end Task

end LeaseQueue
