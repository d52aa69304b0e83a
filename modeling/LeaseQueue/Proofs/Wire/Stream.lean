/-
Messages of a stream that arrives in chunks.

* `decode_append`: what decoding finds in a buffer is found in every longer one, with the new bytes
  left behind it;
* `parse`: decoding a buffer again and again, until no frame is complete or one cannot be read;
* `Parsed.feed`, `received`: parsing after each of several chunks;
* `Parsed.Agrees`, `received_agrees`: the same messages and the same failure come from one chunk as
  from many.

A frame that is not complete leaves the buffer alone, and everything else that decoding does is
decided by bytes that are there, so bytes which arrive later change none of it.
-/
import LeaseQueue.Proofs.Wire.Frame

namespace LeaseQueue.Frame

variable {b x rest : ByteArray} {m : Message} {e : WireError} {n : Nat}

/-! ### Decoding longer buffers -/

/-- Bytes up to a place are the same in every longer buffer. -/
lemma extract_append_of_le {i j : Nat} (h : j ≤ b.size) :
    (b ++ x).extract i j = b.extract i j := by
  have hnone : x.extract (i - b.size) (j - b.size) = .empty :=
    ByteArray.extract_eq_empty_iff.mpr (by omega)
  rw [ByteArray.extract_append, hnone, ByteArray.append_empty]

lemma length_append (h : 4 ≤ b.size) : length (b ++ x) = length b := by
  rw [length, length, extract_append_of_le h]

lemma after_append (h : n ≤ b.size) : after (b ++ x) n = after b n ++ x := by
  rw [after, after, ByteArray.size_append,
    ByteArray.extract_eq_extract_append_extract b.size h (Nat.le_add_right _ _),
    extract_append_of_le (Nat.le_refl _), ByteArray.extract_append_eq_right rfl rfl]

lemma size_after : (after b n).size = b.size - n := by
  rw [after, ByteArray.size_extract, Nat.min_self]

/-- A complete frame is read the same way, whatever follows it. -/
lemma decodeComplete_append (hone : 1 ≤ n) (h : 4 + n ≤ b.size) :
    decodeComplete (b ++ x) n = ((decodeComplete b n).1, (decodeComplete b n).2 ++ x) := by
  have hkind : (b ++ x)[4]?.getD 0 = b[4]?.getD 0 := by
    have hlt : 4 < b.size := by omega
    have hlt' : 4 < (b ++ x).size := by rw [ByteArray.size_append]; omega
    rw [getElem?_pos _ 4 hlt', getElem?_pos _ 4 hlt, ByteArray.getElem_append_left hlt]
  have hafter : after (b ++ x) 5 = after b 5 ++ x := after_append (by omega)
  rw [decodeComplete, decodeComplete, hkind, hafter, extract_append_of_le h, after_append h]
  dsimp only
  split
  · rfl
  · split <;> rfl

/-- What decoding finds in a buffer is found in every longer one. -/
theorem decode_append (x : ByteArray) (h : (decode b).1 ≠ .ok none) :
    decode (b ++ x) = ((decode b).1, (decode b).2 ++ x) := by
  rw [decode] at h ⊢
  have hsize : (b ++ x).size = b.size + x.size := ByteArray.size_append
  by_cases hshort : b.size < 4
  · rw [if_pos hshort] at h
    exact absurd rfl h
  · have hshort' : ¬(b ++ x).size < 4 := by omega
    rw [if_neg hshort] at h
    rw [if_neg hshort', length_append (Nat.le_of_not_lt hshort), decode, if_neg hshort]
    dsimp only at h ⊢
    by_cases hempty : length b = 0
    · rw [if_pos hempty, if_pos hempty]
    · rw [if_neg hempty] at h ⊢
      rw [if_neg hempty]
      by_cases hlarge : maxSize < length b
      · rw [if_pos hlarge, if_pos hlarge]
      · rw [if_neg hlarge] at h ⊢
        rw [if_neg hlarge]
        by_cases hpart : b.size < 4 + length b
        · rw [if_pos hpart] at h
          exact absurd rfl h
        · have hpart' : ¬(b ++ x).size < 4 + length b := by omega
          rw [if_neg hpart', if_neg hpart, decodeComplete_append (by omega) (by omega)]

/-- A frame that is not complete leaves the buffer alone. -/
lemma rest_eq_of_decode (h : decode b = (.ok none, rest)) : rest = b := by
  rw [decode] at h
  dsimp only at h
  split_ifs at h
  · exact (Prod.mk.inj h).2.symm
  · cases h
  · cases h
  · exact (Prod.mk.inj h).2.symm
  · rcases hread : decodeComplete b (length b) with ⟨r, rest'⟩
    rw [hread] at h
    cases r <;> cases h

/-- A message takes bytes. -/
lemma size_lt_of_decode (h : decode b = (.ok (some m), rest)) : rest.size < b.size := by
  obtain ⟨hfour, -, -, -, -, rfl, -⟩ := decode_eq_some_iff.mp h
  rw [size_after]
  omega

/-! ### Parsing -/

/-- What has been read from the bytes of a stream. -/
structure Parsed where
  /-- The messages, first to last. -/
  messages : List Message
  /-- Why nothing more is read, if that is so. -/
  failure : Option WireError
  /-- The bytes not yet used. -/
  rest : ByteArray

/-- Decode a buffer until no frame in it is complete or one cannot be read. -/
def parse (buffer : ByteArray) : Parsed :=
  match h : decode buffer with
  | (.ok none, rest) => ⟨[], none, rest⟩
  | (.error e, rest) => ⟨[], some e, rest⟩
  | (.ok (some m), rest) =>
    have := size_lt_of_decode h
    ⟨m :: (parse rest).messages, (parse rest).failure, (parse rest).rest⟩
termination_by buffer.size

lemma parse_eq_of_none (h : decode b = (.ok none, rest)) : parse b = ⟨[], none, rest⟩ := by
  rw [parse]
  split <;> simp_all

lemma parse_eq_of_error (h : decode b = (.error e, rest)) : parse b = ⟨[], some e, rest⟩ := by
  rw [parse]
  split <;> simp_all

lemma parse_eq_of_some (h : decode b = (.ok (some m), rest)) :
    parse b = ⟨m :: (parse rest).messages, (parse rest).failure, (parse rest).rest⟩ := by
  rw [parse]
  split <;> simp_all

namespace Parsed

/-- Nothing has been read. -/
def start : Parsed := ⟨[], none, .empty⟩

/-- Append a chunk to the bytes not yet used, and parse them. After a failure nothing is read. -/
def feed (p : Parsed) (chunk : ByteArray) : Parsed :=
  match p.failure with
  | some _ => p
  | none =>
    let q := parse (p.rest ++ chunk)
    ⟨p.messages ++ q.messages, q.failure, q.rest⟩

/-- The same messages have been read, and the same follows for all the others. -/
structure Agrees (p q : Parsed) : Prop where
  messages : p.messages = q.messages
  failure : p.failure = q.failure
  rest : p.failure = none → p.rest = q.rest

variable {p q r : Parsed}

lemma Agrees.symm (h : p.Agrees q) : q.Agrees p where
  messages := h.messages.symm
  failure := h.failure.symm
  rest hnone := (h.rest (h.failure.trans hnone)).symm

lemma Agrees.trans (h : p.Agrees q) (h' : q.Agrees r) : p.Agrees r where
  messages := h.messages.trans h'.messages
  failure := h.failure.trans h'.failure
  rest hnone := (h.rest hnone).trans (h'.rest (h.failure ▸ hnone))

lemma feed_of_failure {e : WireError} (h : p.failure = some e) (chunk : ByteArray) :
    p.feed chunk = p := by
  simp only [feed, h]

lemma feed_of_none (h : p.failure = none) (chunk : ByteArray) :
    p.feed chunk = ⟨p.messages ++ (parse (p.rest ++ chunk)).messages,
      (parse (p.rest ++ chunk)).failure, (parse (p.rest ++ chunk)).rest⟩ := by
  simp only [feed, h]

/-- A chunk adds the same to what agrees. -/
lemma Agrees.feed (h : p.Agrees q) (chunk : ByteArray) : (p.feed chunk).Agrees (q.feed chunk) := by
  cases hp : p.failure with
  | some e =>
      rw [feed_of_failure hp, feed_of_failure (h.failure ▸ hp)]
      exact h
  | none =>
      rw [feed_of_none hp, feed_of_none (h.failure ▸ hp), h.messages, h.rest hp]
      exact ⟨rfl, rfl, fun _ => rfl⟩

end Parsed

/-- Bytes that arrive later are read after those which are there. -/
theorem parse_append (b x : ByteArray) : ((parse b).feed x).Agrees (parse (b ++ x)) := by
  induction hb : b.size using Nat.strong_induction_on generalizing b with
  | _ n ih =>
      subst hb
      rcases hdecode : decode b with ⟨e | _ | m, rest⟩
      · rw [parse_eq_of_error hdecode, Parsed.feed_of_failure rfl]
        have happend := decode_append x (by rw [hdecode]; simp)
        rw [hdecode] at happend
        rw [parse_eq_of_error happend]
        exact ⟨rfl, rfl, nofun⟩
      · obtain rfl := rest_eq_of_decode hdecode
        rw [parse_eq_of_none hdecode, Parsed.feed_of_none rfl]
        exact ⟨rfl, rfl, fun _ => rfl⟩
      · have happend := decode_append x (by rw [hdecode]; simp)
        rw [hdecode] at happend
        have hrest := ih rest.size (size_lt_of_decode hdecode) rest rfl
        rw [parse_eq_of_some hdecode, parse_eq_of_some happend]
        -- the message stands before what the rest and the new bytes give
        cases hfailure : (parse rest).failure with
        | some e =>
            rw [Parsed.feed_of_failure hfailure] at hrest
            rw [Parsed.feed_of_failure rfl]
            exact ⟨congrArg (m :: ·) hrest.messages, hfailure ▸ hrest.failure, nofun⟩
        | none =>
            rw [Parsed.feed_of_none hfailure] at hrest
            rw [Parsed.feed_of_none rfl]
            exact ⟨congrArg (m :: ·) hrest.messages, hrest.failure, hrest.rest⟩

/-- What is read from chunks that arrive one after the other. -/
def received (chunks : List ByteArray) : Parsed := chunks.foldl Parsed.feed .start

lemma foldl_feed_agrees {p : Parsed} (h : p.Agrees (parse b)) (chunks : List ByteArray) :
    (chunks.foldl Parsed.feed p).Agrees (parse (b ++ Body.joined id chunks)) := by
  induction chunks generalizing p b with
  | nil => rwa [Body.joined, ByteArray.append_empty]
  | cons x chunks ih =>
      rw [Body.joined, id, ← ByteArray.append_assoc]
      exact ih ((h.feed x).trans (parse_append b x))

/-- The chunks of a stream are read as the stream is. -/
theorem received_agrees (chunks : List ByteArray) :
    (received chunks).Agrees (parse (Body.joined id chunks)) := by
  have hempty : decode .empty = (.ok none, .empty) := by rfl
  have h := foldl_feed_agrees (p := .start) (b := .empty)
    (by rw [parse_eq_of_none hempty]; exact ⟨rfl, rfl, fun _ => rfl⟩) chunks
  rwa [ByteArray.empty_append] at h

end LeaseQueue.Frame
