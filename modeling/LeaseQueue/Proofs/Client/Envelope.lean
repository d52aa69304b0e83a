/-
Envelopes read back from what is stored of them.

* `Envelope.Exact`: an envelope whose arguments have no numbers but whole ones of 64 bits, or whose
  text is no JSON object;
* `Envelope.depth`: how deep its arguments are nested;
* `Envelope.decode_encode`: such an envelope is read as it was, unless its arguments are as deep as
  a text may be; then the stored text stands in their place.

What is stored is one level deeper than the arguments, so arguments of the greatest depth that a
text may have cannot be read back.
-/
import LeaseQueue.Client.Envelope
import LeaseQueue.Proofs.Json.Values

namespace LeaseQueue

namespace Envelope

/-- Nothing is lost when the envelope is written: its arguments are a value without loss, or its
text is no JSON object. -/
def Exact : Envelope → Prop
  | structured _ _ payload => (Json.ofMap payload).Exact
  | raw _ _ text => ∀ members, Json.parse? text ≠ some (.object members)

/-- The nesting of the arguments, themselves counted as one level. -/
def depth : Envelope → Nat
  | structured _ _ payload => (Json.ofMap payload).depth
  | raw _ _ _ => 0

/-! ### Tags -/

lemma getD_metadata (e : Envelope) (d : String) :
    e.metadata.getD "agent" d = e.agent ∧ e.metadata.getD "action" d = e.action := by
  have hkeys : ([("action", e.action), ("agent", e.agent)].map (·.1)).Nodup := by simp
  rw [metadata, SortedMap.getD_eq, SortedMap.getD_eq, SortedMap.get?_ofList hkeys,
    SortedMap.get?_ofList hkeys]
  exact ⟨rfl, rfl⟩

/-! ### Stored members -/

section Members

variable (agent action : String) (payload : SortedMap Json)

/-- The members that are stored for an agent, an action and its arguments. -/
def members : SortedMap Json where
  entries := [("action", .string action), ("agent", .string agent), ("payload", .ofMap payload)]
  increasing := List.pairwise_map.mp
    (show ["action", "agent", "payload"].Pairwise (· < ·) by decide)

lemma encode_structured :
    (structured agent action payload).encode = (Json.ofMap (members agent action payload)).write :=
  rfl

/-- The stored object is one level deeper than the arguments. -/
lemma depth_members :
    (Json.ofMap (members agent action payload)).depth = (Json.ofMap payload).depth + 1 := by
  rw [Json.ofMap, Json.depth, members]
  simp [Json.depthMembers, Json.depth]

lemma exact_members {payload : SortedMap Json} (h : (Json.ofMap payload).Exact) :
    (Json.ofMap (members agent action payload)).Exact := by
  refine .object (members agent action payload).increasing fun e he => ?_
  simp only [members, List.mem_cons, List.not_mem_nil, or_false] at he
  rcases he with rfl | rfl | rfl
  · exact .string action
  · exact .string agent
  · exact h

/-- An empty text is replaced by the tag, which is empty as well. -/
lemma presentString_members :
    (presentString (members agent action payload) "agent").getD agent = agent ∧
      (presentString (members agent action payload) "action").getD action = action := by
  have hfilter : ∀ s : String, ((some s).filter (· ≠ "")).getD s = s := by
    intro s
    by_cases hs : s = "" <;> simp [Option.filter, hs]
  exact ⟨hfilter agent, hfilter action⟩

lemma arguments_members : arguments (members agent action payload) = payload := by
  change SortedMap.ofList payload.entries = payload
  exact payload.ofList_entries

end Members

/-! ### Reading back -/

/-- A text that is no object stands for itself. -/
lemma decode_eq_raw {text : String} (h : ∀ members, Json.parse? text ≠ some (.object members))
    (metadata : Metadata) :
    decode text metadata
      = raw (metadata.getD "agent" unknownAgent) (metadata.getD "action" standardAction) text := by
  have hnone : (Json.read? text).bind Json.asMap? = none := by
    rw [Json.read?]
    cases hparse : Json.parse? text with
    | none => rfl
    | some v =>
        cases v with
        | object members => exact absurd hparse (h members)
        | _ => simp [Json.canonical, Json.asMap?]
  rw [decode, hnone]

/-- An envelope is read as it was if what is stored of it is not too deep, and as a raw one with the
stored text otherwise. -/
theorem decode_encode (e : Envelope) (h : e.Exact) :
    decode e.encode e.metadata = if e.depth ≤ 126 then e else raw e.agent e.action e.encode := by
  obtain ⟨hagent, -⟩ := e.getD_metadata unknownAgent
  obtain ⟨-, haction⟩ := e.getD_metadata standardAction
  cases e with
  | raw agent action text =>
      have hraw := decode_eq_raw h (raw agent action text).metadata
      rw [hagent, haction] at hraw
      exact hraw.trans (if_pos (Nat.zero_le _)).symm
  | structured agent action payload =>
      have hexact := exact_members agent action h
      have hfits : (Json.ofMap payload).depth + 1 ≤ Json.maxDepth ↔
          (Json.ofMap payload).depth ≤ 126 := Nat.succ_le_succ_iff
      rw [depth, encode_structured]
      split_ifs with hdepth
      · have hread := Json.read?_write hexact
        rw [depth_members, if_pos (hfits.mpr hdepth)] at hread
        have hmap : (Json.ofMap (members agent action payload)).asMap?
            = some (members agent action payload) :=
          congrArg some (SortedMap.ofList_entries _)
        obtain ⟨hagent', haction'⟩ := presentString_members agent action payload
        rw [decode, hread, Option.bind_some, hmap, hagent, haction]
        dsimp only [Envelope.agent, Envelope.action]
        rw [hagent', haction', arguments_members]
      · have hparse := Json.parse?_write hexact
        rw [depth_members, if_neg (hdepth ∘ hfits.mp)] at hparse
        rw [decode_eq_raw fun members => by rw [hparse]; simp, hagent, haction]

/-- Null inside so many arrays. -/
def nested : Nat → Json
  | 0 => .null
  | n + 1 => .array [nested n]

lemma exact_nested (n : Nat) : (nested n).Exact ∧ (nested n).depth = n := by
  induction n with
  | zero => exact ⟨.null, by simp [nested, Json.depth]⟩
  | succ n ih =>
      refine ⟨.array fun v hv => ?_, by simp [nested, Json.depth, Json.depthItems, ih.2]⟩
      rw [List.mem_singleton.mp hv]
      exact ih.1

/-- Arguments of a depth, with the least and the greatest of the numbers. -/
def nestedArguments (n : Nat) : SortedMap Json where
  entries := [("deep", nested n), ("limits", .array [.whole (-2 ^ 63), .whole (2 ^ 64 - 1)])]
  increasing := List.pairwise_map.mp (show ["deep", "limits"].Pairwise (· < ·) by decide)

/-- With an agent without name, arguments of depth 126 read back and deeper ones do not. -/
theorem decode_encode_nestedArguments :
    (structured "" "scan" (nestedArguments 125)).Exact ∧
      decode (structured "" "scan" (nestedArguments 125)).encode
          (structured "" "scan" (nestedArguments 125)).metadata
        = structured "" "scan" (nestedArguments 125) ∧
      decode (structured "" "scan" (nestedArguments 126)).encode
          (structured "" "scan" (nestedArguments 126)).metadata
        = raw "" "scan" (structured "" "scan" (nestedArguments 126)).encode := by
  have hexact : ∀ n, (structured "" "scan" (nestedArguments n)).Exact := by
    intro n
    refine .object (nestedArguments n).increasing fun e he => ?_
    simp only [nestedArguments, List.mem_cons, List.not_mem_nil, or_false] at he
    rcases he with rfl | rfl
    · exact (exact_nested n).1
    · refine .array fun v hv => ?_
      simp only [List.mem_cons, List.not_mem_nil, or_false] at hv
      rcases hv with rfl | rfl <;> exact .whole (by norm_num) (by norm_num)
  have hdepth : ∀ n, (structured "" "scan" (nestedArguments n)).depth = max n 1 + 1 := by
    intro n
    rw [depth, Json.ofMap, Json.depth, nestedArguments]
    simp [Json.depthMembers, Json.depthItems, Json.depth, (exact_nested n).2]
  refine ⟨hexact 125, ?_, ?_⟩
  · rw [decode_encode _ (hexact 125), hdepth]
    rfl
  · rw [decode_encode _ (hexact 126), hdepth]
    rfl

end Envelope

end LeaseQueue
