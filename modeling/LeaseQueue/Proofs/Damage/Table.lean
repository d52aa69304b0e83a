/-
Leasing from a table with damaged rows.

* `Table.Waits`: a waiting task whose row can be decoded;
* `Table.Queued`: the cells of waiting rows have the kinds of their columns, and ids are keys; tags
  and statuses may be anything;
* `Table.Leases`: one row is written, that of the leased task;
* `Queued.dequeue`: the least task that waits is leased, and rows that cannot be decoded are passed
  over.
-/
import LeaseQueue.Proofs.Record.Row

namespace LeaseQueue

/-! ### Keys -/

section Distinct

variable {α : Type} [BEq α]

lemma length_eraseDups_le (l : List α) : l.eraseDups.length ≤ l.length := by
  induction hn : l.length using Nat.strong_induction_on generalizing l with
  | _ n ih =>
      cases l with
      | nil => exact Nat.zero_le n
      | cons a l =>
          have hfilter := List.length_filter_le (fun b => !b == a) l
          rw [List.length_cons] at hn
          have hrest := ih _ (by omega) (l.filter fun b => !b == a) rfl
          rw [List.eraseDups_cons, List.length_cons]
          omega

/-- A list from which no repetition can be taken out has none. -/
lemma nodup_of_length_eraseDups [LawfulBEq α] {l : List α}
    (h : l.eraseDups.length = l.length) : l.Nodup := by
  induction l with
  | nil => exact List.nodup_nil
  | cons a l ih =>
      rw [List.eraseDups_cons, List.length_cons, List.length_cons, Nat.succ_inj] at h
      have hle := length_eraseDups_le (l.filter fun b => !b == a)
      have hfilter : (l.filter fun b => !b == a) = l :=
        List.length_filter_eq_length_iff.mp
          (le_antisymm (List.length_filter_le ..) (h ▸ hle)) |> List.filter_eq_self.mpr
      rw [hfilter] at h
      refine List.nodup_cons.mpr ⟨fun ha => ?_, ih h⟩
      have := List.filter_eq_self.mp hfilter a ha
      simp at this

end Distinct

namespace Table

variable {tb tb' : Table} {t : Task} {worker : String} {now : Timestamp}

/-- No other row has the id of a row. -/
lemma id_ne_of_distinctIds {before after : List Row} {r r' : Row} {id : String}
    (h : distinctIds (before ++ r :: after) = true) (hr : r.id = .text id)
    (hr' : r' ∈ before ++ after) : r'.id ≠ .text id := by
  intro heq
  have hnodup := nodup_of_length_eraseDups (beq_iff_eq.mp h)
  rw [List.map_append, List.map_cons, List.filter_append, List.filter_cons, hr] at hnodup
  have hmem : Cell.text id ∈ ((before ++ after).map (·.id)).filter (· != .null) := by
    simp only [List.mem_filter, List.mem_map]
    exact ⟨⟨r', hr', heq⟩, rfl⟩
  rw [if_pos (by rfl), List.nodup_middle, List.nodup_cons, ← List.filter_append,
    ← List.map_append] at hnodup
  exact hnodup.1 hmem

/-! ### Waiting rows -/

/-- A task that waits and whose row can be decoded. -/
def Waits (tb : Table) (t : Task) : Prop := t.status = .pending ∧ ∃ r ∈ tb.rows, r.decode = .ok t

/-- Ids are keys, and the cells of waiting rows have the kinds of their columns. -/
structure Queued (tb : Table) : Prop where
  distinct : distinctIds tb.rows = true
  reads : ∀ r ∈ tb.rows, hasStatus .pending r = true → ∃ s, r.read = .ok s

/-- The row of a task is written with its lease, and no other row is. -/
def Leases (worker : String) (now : Timestamp) (t : Task) (tb tb' : Table) : Prop :=
  ∃ before r after, tb.rows = before ++ r :: after ∧ r.decode = .ok t ∧
    tb'.rows = before ++ r.save (t.claim worker now) :: after ∧
    (r.save (t.claim worker now)).decode = .ok (t.claim worker now)

lemma hasStatus_of_decode {r : Row} (h : r.decode = .ok t) (s : Status) :
    hasStatus s r = true ↔ t.status = s := by
  rw [hasStatus, (Row.cells_of_decode h).2.1, beq_iff_eq, Cell.text.injEq, Status.name_injective]

/-- The first row that can be decoded is found, behind rows that cannot. -/
lemma firstDecodable_cases {l : List Row} (h : ∀ r ∈ l, ∃ s, r.read = .ok s) :
    (∃ lead r rest t, l = lead ++ r :: rest ∧ (∀ r' ∈ lead, ∀ t', r'.decode ≠ .ok t') ∧
      r.decode = .ok t ∧ firstDecodable l = .ok (some t)) ∨
    (∀ r ∈ l, ∀ t, r.decode ≠ .ok t) ∧ firstDecodable l = .ok none := by
  induction l with
  | nil => exact .inr ⟨by simp, rfl⟩
  | cons r l ih =>
      obtain ⟨⟨s, hread⟩, hl⟩ := List.forall_mem_cons.mp h
      have hdecode : r.decode = s.decode := by rw [Row.decode, hread]; rfl
      simp only [firstDecodable, hread]
      cases hs : s.decode with
      | ok t => exact .inl ⟨[], r, l, t, rfl, by simp, hdecode.trans hs, rfl⟩
      | error e =>
          have hr : ∀ t, r.decode ≠ .ok t := fun t ht => by
            rw [hdecode, hs] at ht
            cases ht
          obtain ⟨lead, r', rest, t, rfl, hlead, ht, hfirst⟩ | ⟨hnone, hfirst⟩ := ih hl
          · exact .inl
              ⟨r :: lead, r', rest, t, rfl, List.forall_mem_cons.mpr ⟨hr, hlead⟩, ht, hfirst⟩
          · exact .inr ⟨List.forall_mem_cons.mpr ⟨hr, hnone⟩, hfirst⟩

/-! ### Order -/

/-- What the order of the queue sees of a row. -/
def standIn (r : Row) : Task where
  id := match r.id with
    | .text id => id
    | _ => ""
  type := ""
  payload := ""
  metadata := .empty
  status := .pending
  createdAt := match r.createdAt with
    | .integer n => n
    | _ => 0
  updatedAt := 0
  result := none
  worker := none
  attempts := 0

/-- Waiting rows are selected in queue order. -/
lemma Queued.pairwise_select (h : Queued tb) :
    (tb.select (hasStatus .pending)).Pairwise
      fun r r' => Task.le (standIn r) (standIn r') = true := by
  have hread : ∀ r ∈ tb.rows.filter (hasStatus .pending),
      r.createdAt = .integer (standIn r).createdAt ∧ r.id = .text (standIn r).id := by
    intro r hr
    obtain ⟨hmem, hs⟩ := List.mem_filter.mp hr
    obtain ⟨s, hs⟩ := h.reads r hmem hs
    have hreads := Row.read_eq_ok_iff.mp hs
    simp [standIn, hreads.id, hreads.createdAt]
  have hmap := List.map_mergeSort (r := rowLe) (s := Task.le) (f := standIn) fun r hr r' hr' =>
    rowLe_eq (hread r hr).1 (hread r hr).2 (hread r' hr').1 (hread r' hr').2
  rw [select, ← List.pairwise_map (f := standIn) (R := fun a b => Task.le a b = true), hmap]
  exact Task.pairwise_sort _

/-- Two rows that are decoded stand in the order of their tasks. -/
lemma le_standIn {r r' : Row} {t' : Task} (ht : r.decode = .ok t) (ht' : r'.decode = .ok t') :
    Task.le (standIn r) (standIn r') = Task.le t t' := by
  obtain ⟨hid, -, hcreated⟩ := Row.cells_of_decode ht
  obtain ⟨hid', -, hcreated'⟩ := Row.cells_of_decode ht'
  simp only [Task.le, standIn, hid, hcreated, hid', hcreated']

/-! ### Dequeues -/

/-- A lease is written into the row of its task. -/
lemma Queued.leases (h : Queued tb) {r : Row} (hr : r ∈ tb.rows) (ht : r.decode = .ok t) :
    Leases worker now t tb (tb.save (t.claim worker now)) := by
  obtain ⟨before, after, hrows⟩ := List.append_of_mem hr
  have hid := (Row.cells_of_decode ht).1
  have hother : ∀ r' ∈ before ++ after, (r'.id == .text (t.claim worker now).id) = false :=
    fun r' hr' => beq_eq_false_iff_ne.mpr
      (id_ne_of_distinctIds (hrows ▸ h.distinct) hid hr')
  refine ⟨before, r, after, hrows, ht, ?_, Row.decode_save ht (t.sameIdentity_claim worker now)⟩
  have hkeep (l : List Row) (hl : l ⊆ before ++ after) : l.map (fun r' =>
      if r'.id == .text (t.claim worker now).id then r'.save (t.claim worker now) else r') = l := by
    refine (List.map_congr_left fun r' hr' => ?_).trans (List.map_id l)
    rw [hother r' (hl hr')]
    rfl
  rw [save, hrows, List.map_append, List.map_cons, hkeep before (by simp), hkeep after (by simp),
    if_pos (by rw [hid]; exact beq_self_eq_true _)]

/-- The least task that waits is leased and nothing else is written; if none waits, nothing is. -/
theorem Queued.dequeue (h : Queued tb) (worker : String) (now : Timestamp) :
    (∃ t, tb.Waits t ∧ (∀ t', tb.Waits t' → Task.le t t' = true) ∧
      (tb.dequeue now worker).1 = .ok (some (t.claim worker now)) ∧
      Leases worker now t tb (tb.dequeue now worker).2) ∨
    (∀ t, ¬ tb.Waits t) ∧ tb.dequeue now worker = (.ok none, tb) := by
  have hselect : ∀ r, r ∈ tb.select (hasStatus .pending) ↔
      r ∈ tb.rows ∧ hasStatus .pending r = true := fun r => by
    rw [select, List.mem_mergeSort, List.mem_filter]
  have hwaits : ∀ t, tb.Waits t ↔
      ∃ r ∈ tb.select (hasStatus .pending), r.decode = .ok t := by
    intro t
    constructor
    · rintro ⟨hs, r, hr, ht⟩
      exact ⟨r, (hselect r).mpr ⟨hr, (hasStatus_of_decode ht _).mpr hs⟩, ht⟩
    · rintro ⟨r, hr, ht⟩
      obtain ⟨hr, hs⟩ := (hselect r).mp hr
      exact ⟨(hasStatus_of_decode ht _).mp hs, r, hr, ht⟩
  have hreads : ∀ r ∈ tb.select (hasStatus .pending), ∃ s, r.read = .ok s := fun r hr =>
    h.reads r ((hselect r).mp hr).1 ((hselect r).mp hr).2
  obtain ⟨lead, r, rest, t, hsplit, hlead, ht, hfirst⟩ | ⟨hnone, hfirst⟩ :=
    firstDecodable_cases hreads
  · have hr : r ∈ tb.select (hasStatus .pending) := by simp [hsplit]
    refine .inl ⟨t, (hwaits t).mpr ⟨r, hr, ht⟩, fun t' ht' => ?_, ?_, ?_⟩
    · obtain ⟨r', hr', ht'⟩ := (hwaits t').mp ht'
      have hpairwise := h.pairwise_select
      rw [hsplit, List.mem_append, List.mem_cons] at hr'
      rw [hsplit, List.pairwise_append, List.pairwise_cons] at hpairwise
      rcases hr' with hr' | rfl | hr'
      · exact absurd ht' (hlead r' hr' t')
      · obtain rfl := Except.ok.inj (ht.symm.trans ht')
        exact (Task.le_total t t).elim id id
      · exact le_standIn ht ht' ▸ hpairwise.2.1.1 r' hr'
    · rw [Table.dequeue, hfirst]
    · rw [Table.dequeue, hfirst]
      exact h.leases ((hselect r).mp hr).1 ht
  · refine .inr ⟨fun t ht => ?_, ?_⟩
    · obtain ⟨r, hr, ht⟩ := (hwaits t).mp ht
      exact hnone r hr t ht
    · rw [Table.dequeue, hfirst]

end Table

end LeaseQueue
