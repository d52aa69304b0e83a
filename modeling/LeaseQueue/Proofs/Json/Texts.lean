/-
Reading the JSON texts of maps from texts to texts.

* `parse?_write_ofTexts`: the written object of a map reads back, members in order;
* `asTexts?_ofTexts`: the object of a map gives the map.

Together, tags that have been written are read as they were (`parse?_bind_asTexts?`).
-/
import LeaseQueue.Proofs.Json.Values

namespace LeaseQueue.Json

lemma ofTexts_eq (m : SortedMap String) :
    ofTexts m = .object (m.entries.map fun e => (e.1, .string e.2)) := rfl

/-- The object of a map from texts to texts has nothing but strings in it. -/
lemma exact_ofTexts (m : SortedMap String) : Exact (ofTexts m) ∧ (ofTexts m).depth = 1 := by
  have hstring : ∀ e ∈ (m.map Json.string).entries, ∃ s, e.2 = .string s := by
    intro e he
    obtain ⟨a, -, rfl⟩ := List.mem_map.mp he
    exact ⟨a.2, rfl⟩
  constructor
  · refine .object (m.map Json.string).increasing fun e he => ?_
    obtain ⟨s, hs⟩ := hstring e he
    exact hs ▸ .string s
  · have hdepth : depthMembers (m.map Json.string).entries ≤ 0 := by
      refine depthMembers_le_iff.mpr fun e he => ?_
      obtain ⟨s, hs⟩ := hstring e he
      simp [hs, depth]
    rw [ofTexts, ofMap, depth, Nat.le_zero.mp hdepth]

/-- The written object of a map reads back. -/
lemma parse?_write_ofTexts (m : SortedMap String) :
    parse? (ofTexts m).write = some (ofTexts m) := by
  obtain ⟨hexact, hdepth⟩ := exact_ofTexts m
  rw [parse?_write hexact, hdepth, if_pos (by decide)]

/-- The object of a map gives the map. -/
lemma asTexts?_ofTexts (m : SortedMap String) : (ofTexts m).asTexts? = some m := by
  have hmap : ∀ l : List (String × String),
      (l.map fun e => (e.1, Json.string e.2)).mapM
        (fun e => (asString? e.2).map fun s => (e.1, s)) = some l := by
    intro l
    induction l with
    | nil => rfl
    | cons e l ih =>
        rw [List.map_cons, List.mapM_cons, ih]
        simp [asString?]
  rw [ofTexts_eq, asTexts?, hmap, Option.map_some, SortedMap.ofList_entries]

/-- Written tags are read as they were. -/
lemma parse?_bind_asTexts? (m : SortedMap String) :
    (parse? (ofTexts m).write).bind asTexts? = some m := by
  rw [parse?_write_ofTexts, Option.bind_some, asTexts?_ofTexts]

end LeaseQueue.Json
