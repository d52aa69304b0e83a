/-
The table of events lists what the log of events holds.

* `AuditLog.recordAll`, `AuditTable.recordAll`: several events, one after the other;
* `AuditEvent.Newer`, `NewestFirst`: the events of a list by time from the newest, the later
  recorded one first among those of one time; there is one such listing (`NewestFirst.unique`);
* `newestFirst_reverse`: while the clock does not go back, it is the list in reverse;
* `AuditTable.rows_recordAll`, `AuditRow.event?_ofEvent`: a table keeps each event under its number,
  and gives it back as it was;
* `AuditTable.newerLe_iff_stamp_le`: the rows are compared by their stamps, time and number;
* `AuditTable.list?_recordAll`: a table lists the newest events of the log, up to the limit.
-/
import LeaseQueue.Broker.Audit
import LeaseQueue.Proofs.Json.Texts

namespace LeaseQueue

/-! ### Newest first -/

namespace AuditEvent

variable {events listed : List AuditEvent}

/-- Of two places of a list of events, the first one holds the newer event, or the later recorded
one of the same time. -/
def Newer (events : List AuditEvent) (i j : Fin events.length) : Prop :=
  (events.get j).createdAt < (events.get i).createdAt ∨
    (events.get j).createdAt = (events.get i).createdAt ∧ j < i

/-- The events by time from the newest, and the later recorded one first among those of one time. -/
def NewestFirst (events listed : List AuditEvent) : Prop :=
  ∃ places : List (Fin events.length),
    (∀ i, i ∈ places) ∧ places.Pairwise (Newer events) ∧ listed = places.map events.get

instance (events : List AuditEvent) (i j : Fin events.length) : Decidable (Newer events i j) :=
  inferInstanceAs (Decidable (_ ∨ _))

lemma Newer.asymm {i j : Fin events.length} (h : Newer events i j) : ¬ Newer events j i := by
  rintro (h' | ⟨h', hij⟩) <;> rcases h with h | ⟨h, hji⟩
  · exact Int64.lt_irrefl (Int64.lt_trans h h')
  · exact Int64.lt_irrefl (h ▸ h')
  · exact Int64.lt_irrefl (h' ▸ h)
  · exact Fin.lt_asymm hij hji

lemma nodup_of_pairwise_newer {places : List (Fin events.length)}
    (h : places.Pairwise (Newer events)) : places.Nodup := by
  refine h.imp fun {i j} hij => ?_
  rintro rfl
  exact hij.asymm hij

/-- There is one such listing. -/
lemma NewestFirst.unique {listed' : List AuditEvent} (h : NewestFirst events listed)
    (h' : NewestFirst events listed') : listed = listed' := by
  obtain ⟨places, hall, hnewer, rfl⟩ := h
  obtain ⟨places', hall', hnewer', rfl⟩ := h'
  have hperm : places.Perm places' :=
    (List.perm_ext_iff_of_nodup (nodup_of_pairwise_newer hnewer)
      (nodup_of_pairwise_newer hnewer')).mpr fun i => iff_of_true (hall i) (hall' i)
  rw [hperm.eq_of_pairwise (fun i j _ _ hij hji => absurd hji hij.asymm) hnewer hnewer']

lemma NewestFirst.length_eq (h : NewestFirst events listed) : listed.length = events.length := by
  obtain ⟨places, hall, hnewer, rfl⟩ := h
  have hperm : places.Perm (List.finRange events.length) :=
    (List.perm_ext_iff_of_nodup (nodup_of_pairwise_newer hnewer) (List.nodup_finRange _)).mpr
      fun i => iff_of_true (hall i) (List.mem_finRange i)
  rw [List.length_map, hperm.length_eq, List.length_finRange]

/-- While the clock does not go back, the listing is the list in reverse. -/
lemma newestFirst_reverse (h : events.Pairwise fun a b => a.createdAt ≤ b.createdAt) :
    NewestFirst events events.reverse := by
  refine ⟨(List.finRange events.length).reverse, fun i => ?_, ?_, ?_⟩
  · exact List.mem_reverse.mpr (List.mem_finRange i)
  · rw [List.pairwise_reverse]
    refine (List.pairwise_lt_finRange _).imp fun {i j} hij => ?_
    rcases Int64.lt_or_eq_of_le (List.pairwise_iff_get.mp h i j hij) with hlt | heq
    · exact Or.inl hlt
    · exact Or.inr ⟨heq, hij⟩
  · rw [List.map_reverse, List.map_get_finRange]

end AuditEvent

open AuditEvent

/-! ### Rows of events -/

/-- The log after several events. -/
def AuditLog.recordAll (l : AuditLog) (events : List AuditEvent) : AuditLog := events.foldl record l

lemma AuditLog.events_recordAll (l : AuditLog) (events : List AuditEvent) :
    (l.recordAll events).events = l.events ++ events := by
  induction events generalizing l with
  | nil => exact (List.append_nil _).symm
  | cons e events ih =>
      rw [recordAll, List.foldl_cons]
      exact (ih (l.record e)).trans (List.append_assoc _ [e] events)

namespace AuditRow

/-- A row gives back the event that it was made for. -/
lemma event?_ofEvent (id : Nat) (e : AuditEvent) : (ofEvent id e).event? = some e := by
  rw [event?, ofEvent, Json.parse?_bind_asTexts?, Option.map_some]

end AuditRow

namespace AuditTable

variable {events : List AuditEvent}

/-- The table after several events. -/
def recordAll (t : AuditTable) (events : List AuditEvent) : AuditTable := events.foldl record t

/-- The row of the event at a place. -/
def rowAt (events : List AuditEvent) (i : Fin events.length) : AuditRow :=
  .ofEvent (i + 1) (events.get i)

lemma rows_recordAll (t : AuditTable) (events : List AuditEvent) :
    (t.recordAll events).rows
      = t.rows ++ events.mapIdx fun i e => .ofEvent (t.rows.length + i + 1) e := by
  induction events generalizing t with
  | nil => exact (List.append_nil _).symm
  | cons e events ih =>
      have hrows : (t.record e).rows = t.rows ++ [.ofEvent (t.rows.length + 1) e] := rfl
      rw [recordAll, List.foldl_cons]
      refine (ih (t.record e)).trans ?_
      rw [hrows, List.append_assoc, List.mapIdx_cons, List.length_append, List.length_singleton]
      simp only [List.singleton_append, Nat.add_zero, Nat.add_right_comm, Nat.add_assoc]

/-- A table keeps each event in a row under its number. -/
lemma rows_recordAll_empty (events : List AuditEvent) :
    (empty.recordAll events).rows = (List.finRange events.length).map (rowAt events) := by
  rw [rows_recordAll]
  refine List.ext_getElem ?_ fun i _ _ => ?_
  · simp [empty]
  · simp [empty, rowAt]

/-! ### The order of rows -/

/-- The time and then the number of a row. -/
def stamp (r : AuditRow) : ℤ ×ₗ ℕ := toLex (r.createdAt.toInt, r.id)

lemma newerLe_iff {a b : AuditRow} : a.newerLe b = true ↔
    b.createdAt < a.createdAt ∨ b.createdAt = a.createdAt ∧ b.id ≤ a.id := by
  simp only [AuditRow.newerLe, Bool.or_eq_true, Bool.and_eq_true, decide_eq_true_eq, beq_iff_eq]

lemma newerLe_iff_stamp_le {a b : AuditRow} : a.newerLe b = true ↔ stamp b ≤ stamp a := by
  rw [newerLe_iff, stamp, stamp, Prod.Lex.toLex_le_toLex, Int64.lt_iff_toInt_lt, Int64.toInt_inj]

/-- The places of the events in the order of their rows. -/
def places (events : List AuditEvent) : List (Fin events.length) :=
  (List.finRange events.length).mergeSort fun i j => (rowAt events i).newerLe (rowAt events j)

lemma places_perm (events : List AuditEvent) :
    (places events).Perm (List.finRange events.length) := List.mergeSort_perm ..

/-- Rows stand in order as their events do, from the newest. -/
lemma newestFirst_places (events : List AuditEvent) :
    NewestFirst events ((places events).map events.get) := by
  have hsorted : (places events).Pairwise fun i j =>
      (rowAt events i).newerLe (rowAt events j) = true := by
    refine List.pairwise_mergeSort (fun i j k hij hjk => ?_) (fun i j => ?_) _
    · rw [newerLe_iff_stamp_le] at *
      exact hjk.trans hij
    · rw [Bool.or_eq_true, newerLe_iff_stamp_le, newerLe_iff_stamp_le]
      exact le_total _ _
  have hnodup : (places events).Nodup :=
    (places_perm events).nodup_iff.mpr (List.nodup_finRange _)
  refine ⟨places events, fun i => ?_, ?_, rfl⟩
  · exact (places_perm events).mem_iff.mpr (List.mem_finRange i)
  · refine hsorted.imp₂ (fun i j hij hne => ?_) hnodup
    rcases newerLe_iff.mp hij with hlt | ⟨heq, hle⟩
    · exact Or.inl hlt
    · exact Or.inr ⟨heq, lt_of_le_of_ne (Nat.le_of_succ_le_succ hle) (Ne.symm hne)⟩

lemma mergeSort_rows (events : List AuditEvent) :
    (empty.recordAll events).rows.mergeSort AuditRow.newerLe
      = (places events).map (rowAt events) := by
  rw [rows_recordAll_empty, places]
  exact (@List.map_mergeSort _ _ _ _ (rowAt events) _ fun _ _ _ _ => rfl).symm

/-- Rows give back their events. -/
lemma mapM_event?_rowAt (l : List (Fin events.length)) :
    (l.map (rowAt events)).mapM AuditRow.event? = some (l.map events.get) := by
  have hevent : AuditRow.event? ∘ rowAt events = fun i => pure (events.get i) :=
    funext fun i => AuditRow.event?_ofEvent _ _
  rw [List.mapM_map, hevent, List.mapM_pure]
  rfl

/-! ### Limits -/

/-- A limit is taken as it is, unless it is too great for a number with sign; then it is none. -/
lemma cut_toInt64 {limit : UInt64} {rows : List AuditRow}
    (h : limit.toNat < 2 ^ 63 ∨ rows.length ≤ limit.toNat) :
    cut limit.toInt64 rows = rows.take limit.toNat := by
  have hlt := limit.toNat_lt
  have hint : limit.toInt64.toInt
      = if limit.toNat < 2 ^ 63 then (limit.toNat : Int) else limit.toNat - 2 ^ 64 := by
    rw [← Int64.toInt_toBitVec, UInt64.toBitVec_toInt64, BitVec.toInt_eq_toNat_cond,
      UInt64.toNat_toBitVec]
    split_ifs <;> omega
  have hneg : limit.toInt64 < 0 ↔ ¬ limit.toNat < 2 ^ 63 := by
    rw [Int64.lt_iff_toInt_lt, hint, Int64.toInt_zero]
    split_ifs <;> omega
  by_cases hsmall : limit.toNat < 2 ^ 63
  · rw [cut, if_neg fun h => hneg.mp h hsmall, hint, if_pos hsmall, Int.toNat_natCast]
  · rw [cut, if_pos (hneg.mpr hsmall), List.take_of_length_le (h.resolve_left hsmall)]

/-! ### The listing -/

lemma list?_eq {limit : UInt64} (hroom : limit.toNat < 2 ^ 63 ∨ events.length ≤ limit.toNat) :
    (empty.recordAll events).list? limit
      = some (((places events).map events.get).take limit.toNat) := by
  have hlength : ((places events).map (rowAt events)).length = events.length := by
    rw [List.length_map, (places_perm events).length_eq, List.length_finRange]
  rw [list?, mergeSort_rows, cut_toInt64 (hlength.symm ▸ hroom), ← List.map_take,
    mapM_event?_rowAt, List.map_take]

/-- A table lists the newest events of the log of the same events, up to the limit. A limit from
`2 ^ 63` on is read as none, which is the same unless there are more events than that; no log and no
table holds so many. -/
theorem list?_recordAll (events : List AuditEvent) (limit : UInt64)
    (hroom : limit.toNat < 2 ^ 63 ∨ events.length ≤ limit.toNat) :
    ∃ listed, NewestFirst (AuditLog.empty.recordAll events).events listed ∧
      (empty.recordAll events).list? limit
        = some (listed.take (min limit.toNat (AuditLog.empty.recordAll events).events.length)) ∧
      (AuditLog.empty.recordAll events).events = events ∧
      ((events.Pairwise fun a b => a.createdAt ≤ b.createdAt) → listed = events.reverse) := by
  have hlog : (AuditLog.empty.recordAll events).events = events :=
    AuditLog.events_recordAll .empty events
  have hlisted := newestFirst_places events
  rw [hlog]
  refine ⟨_, hlisted, ?_, rfl, fun h => hlisted.unique (newestFirst_reverse h)⟩
  rw [list?_eq hroom, List.take_eq_take_min, hlisted.length_eq]

/-- The clock goes back after the second event, and stands at the third one. -/
def steppingEvents : List AuditEvent :=
  [⟨AuditKind.enqueued.name, "queue", .ofList [("task_id", "a \"b\"")], 5⟩,
   ⟨AuditKind.dequeued.name, "w", ∅, 9⟩, ⟨AuditKind.heartbeat.name, "queue", ∅, 5⟩,
   ⟨AuditKind.acknowledged.name, "queue", .ofList [("status", "é\n")], 5⟩]

/-- The first limit that is too great for a number with sign. -/
def signLimit : UInt64 := 0x8000000000000000

/-- Such a limit cuts nothing, and the events of one time are listed in reverse. -/
theorem list?_steppingEvents :
    (signLimit.toNat < 2 ^ 63 ∨ steppingEvents.length ≤ signLimit.toNat) ∧
      (empty.recordAll steppingEvents).list? signLimit
        = some [steppingEvents[1], steppingEvents[3], steppingEvents[2], steppingEvents[0]] := by
  have hroom : steppingEvents.length ≤ signLimit.toNat := by decide
  obtain ⟨listed, hlisted, hlist, -, -⟩ := list?_recordAll steppingEvents signLimit (Or.inr hroom)
  have hplaces : NewestFirst steppingEvents
      [steppingEvents[1], steppingEvents[3], steppingEvents[2], steppingEvents[0]] :=
    ⟨[⟨1, by decide⟩, ⟨3, by decide⟩, ⟨2, by decide⟩, ⟨0, by decide⟩], by decide, by decide, rfl⟩
  refine ⟨Or.inr hroom, ?_⟩
  rw [hlist, hlisted.unique hplaces]
  rfl

end AuditTable

end LeaseQueue
