/-
Frames of messages, written and read back.

* `lengthBytes_length`, `length_lengthBytes`: lengths and their four bytes;
* `Frame.frame`, `encode_eq`: the frame of a message, with bytes behind its body or without;
* `decode_eq_some_iff`: which buffers hold a message, by their parts;
* `format`: decoding finds a message exactly where a frame of it stands.
-/
import LeaseQueue.Proofs.Wire.Body
import LeaseQueue.Wire.Frame

namespace LeaseQueue

lemma MessageType.ofCode?_eq_some_iff {b : UInt8} {type : MessageType} :
    MessageType.ofCode? b = some type ↔ b = type.code := by
  constructor
  · intro h
    have hcode := List.find?_some h
    exact (beq_iff_eq.mp hcode).symm
  · rintro rfl
    exact ofCode?_code type

namespace Frame

open Body (ofBytes)

variable {buffer rest x : ByteArray} {m : Message} {L n : Nat}

/-! ### Lengths -/

lemma size_lengthBytes (n : Nat) : (lengthBytes n).size = 4 := by
  rw [lengthBytes, Body.size_ofBytes, List.length_reverse, Body.length_littleEndian]

/-- The four bytes of a length, greatest first. -/
lemma lengthBytes_eq (n : Nat) :
    lengthBytes n = ofBytes [UInt8.ofNat (n / 2 ^ 24), UInt8.ofNat (n / 2 ^ 16),
      UInt8.ofNat (n / 2 ^ 8), UInt8.ofNat n] := by
  have hmod : ∀ k, UInt8.ofNat (k % 256) = UInt8.ofNat k := by
    intro k
    rw [← UInt8.toNat_inj]
    simp
  have h₂ : n / 256 / 256 = n / 2 ^ 16 := by omega
  have h₃ : n / 2 ^ 16 / 256 = n / 2 ^ 24 := by omega
  simp only [lengthBytes, Body.littleEndian, List.reverse_cons, List.reverse_nil, List.nil_append,
    List.cons_append, hmod, h₂, h₃]
  rfl

/-- A length that fits in four bytes is read back. -/
lemma length_lengthBytes (hL : L < 2 ^ 32) : length (lengthBytes L ++ rest) = L := by
  rw [length, ByteArray.extract_append_eq_left (size_lengthBytes L).symm, lengthBytes]
  change Body.littleEndianValue (Body.littleEndian 4 L).reverse.reverse = L
  rw [List.reverse_reverse, Body.littleEndianValue_littleEndian]
  exact Nat.mod_eq_of_lt hL

/-- The first four bytes of a buffer are those of its length. -/
lemma lengthBytes_length (h : 4 ≤ buffer.size) :
    lengthBytes (length buffer) = buffer.extract 0 4 := by
  have hlength : (buffer.extract 0 4).data.toList.reverse.length = 4 := by
    have hsize : (buffer.extract 0 4).size = 4 := by
      rw [ByteArray.size_extract]
      omega
    rw [List.length_reverse]
    exact hsize
  have hback := Body.littleEndian_littleEndianValue (buffer.extract 0 4).data.toList.reverse
  rw [hlength] at hback
  rw [lengthBytes, length, hback, List.reverse_reverse]
  rfl

/-! ### Frames -/

/-- A frame of a length that holds a message and bytes behind its body. -/
def frame (L : Nat) (m : Message) (junk : ByteArray) : ByteArray :=
  ofBytes [UInt8.ofNat (L / 2 ^ 24), UInt8.ofNat (L / 2 ^ 16), UInt8.ofNat (L / 2 ^ 8),
    UInt8.ofNat L, m.type.code] ++ Body.encode m ++ junk

lemma ofBytes_eq (l : List UInt8) : ofBytes l = l.toByteArray := by
  rw [ByteArray.ext_iff, List.data_toByteArray]
  rfl

lemma ofBytes_append (l l' : List UInt8) : ofBytes (l ++ l') = ofBytes l ++ ofBytes l' := by
  rw [ofBytes_eq, ofBytes_eq, ofBytes_eq, List.toByteArray_append]

lemma frame_eq (L : Nat) (m : Message) (junk : ByteArray) :
    frame L m junk
      = lengthBytes L ++ (ofBytes [m.type.code] ++ (Body.encode m ++ junk)) := by
  rw [lengthBytes_eq, ← ByteArray.append_assoc, ← ofBytes_append, ← ByteArray.append_assoc]
  rfl

lemma encode_eq (m : Message) :
    encode m = if maxSize < 1 + (Body.encode m).size then
        .error (.messageTooLarge (1 + (Body.encode m).size))
      else .ok (frame (1 + (Body.encode m).size) m .empty) := by
  rw [encode, frame_eq, ByteArray.append_empty, ByteArray.append_assoc]

/-! ### Decoding -/

lemma decodeComplete_eq_ok_iff (hn : n ≤ maxSize) :
    decodeComplete buffer n = (.ok m, rest) ↔
      buffer[4]?.getD 0 = m.type.code ∧ rest = after buffer (4 + n) ∧
        ∃ junk, buffer.extract 5 (4 + n) = Body.encode m ++ junk := by
  have hsize : (buffer.extract 5 (4 + n)).size < 2 ^ 64 := by
    rw [maxSize] at hn
    rw [ByteArray.size_extract]
    omega
  constructor
  · intro h
    simp only [decodeComplete] at h
    split at h
    · cases h
    · rename_i type htype
      split at h
      · rename_i m' hread
        obtain ⟨hm, rfl⟩ := Prod.mk.inj h
        obtain rfl := Except.ok.inj hm
        obtain ⟨rfl, hjunk⟩ := (Body.decode_eq_ok_iff hsize).mp hread
        exact ⟨MessageType.ofCode?_eq_some_iff.mp htype, rfl, hjunk⟩
      · cases h
  · rintro ⟨hcode, rfl, hjunk⟩
    have hread := (Body.decode_eq_ok_iff hsize).mpr ⟨rfl, hjunk⟩
    simp only [decodeComplete, hcode, MessageType.ofCode?_code, hread]

/-- A buffer holds a message exactly when its length is in order and its parts are those of the
message. -/
theorem decode_eq_some_iff :
    decode buffer = (.ok (some m), rest) ↔
      4 ≤ buffer.size ∧ 1 ≤ length buffer ∧ length buffer ≤ maxSize ∧
        4 + length buffer ≤ buffer.size ∧ buffer[4]?.getD 0 = m.type.code ∧
        rest = after buffer (4 + length buffer) ∧
        ∃ junk, buffer.extract 5 (4 + length buffer) = Body.encode m ++ junk := by
  rw [decode]
  dsimp only
  split_ifs with hshort hempty hlarge hpart
  · simp
    omega
  · simp
    omega
  · simp
    omega
  · simp
    omega
  · have hmax : length buffer ≤ maxSize := Nat.le_of_not_lt hlarge
    have hsome : ((decodeComplete buffer (length buffer)).1.map some,
        (decodeComplete buffer (length buffer)).2) = (.ok (some m), rest) ↔
          decodeComplete buffer (length buffer) = (.ok m, rest) := by
      rcases decodeComplete buffer (length buffer) with ⟨e | m', rest'⟩ <;> simp [Except.map]
    rw [hsome, decodeComplete_eq_ok_iff hmax]
    constructor
    · intro h
      exact ⟨by omega, by omega, by omega, by omega, h⟩
    · rintro ⟨-, -, -, -, h⟩
      exact h

/-! ### The format -/

lemma size_frame (L : Nat) (m : Message) (junk : ByteArray) :
    (frame L m junk).size = 5 + (Body.encode m).size + junk.size := by
  rw [frame, ByteArray.size_append, ByteArray.size_append]
  rfl

lemma extract_middle (a x b : ByteArray) :
    (a ++ (x ++ b)).extract a.size (a.size + x.size) = x := by
  have h := ByteArray.extract_append_size_add (a := a) (b := x ++ b) (i := 0) (j := x.size)
  rw [Nat.add_zero] at h
  rw [h, ByteArray.extract_append_eq_left rfl]

/-- The parts of a buffer that begins with a frame. -/
lemma parts_frame {junk : ByteArray} (hL : L = 1 + (Body.encode m).size + junk.size)
    (hmax : L ≤ maxSize) (rest : ByteArray) :
    length (frame L m junk ++ rest) = L ∧ (frame L m junk ++ rest)[4]?.getD 0 = m.type.code ∧
      (frame L m junk ++ rest).extract 5 (4 + L) = Body.encode m ++ junk ∧
      after (frame L m junk ++ rest) (4 + L) = rest := by
  have hsize := size_frame L m junk
  rw [maxSize] at hmax
  refine ⟨?_, ?_, ?_, ?_⟩
  · rw [frame_eq, ByteArray.append_assoc]
    exact length_lengthBytes (by omega)
  · have hlt : 4 < (frame L m junk ++ rest).size := by
      rw [ByteArray.size_append]
      omega
    rw [getElem?_pos _ 4 hlt]
    simp only [frame, ByteArray.append_assoc]
    rw [ByteArray.getElem_append_left (Nat.lt_succ_self 4)]
    rfl
  · have hend : 4 + L = 5 + (Body.encode m ++ junk).size := by
      rw [ByteArray.size_append]
      omega
    have hparts : frame L m junk ++ rest
        = ofBytes [UInt8.ofNat (L / 2 ^ 24), UInt8.ofNat (L / 2 ^ 16), UInt8.ofNat (L / 2 ^ 8),
          UInt8.ofNat L, m.type.code] ++ ((Body.encode m ++ junk) ++ rest) := by
      simp only [frame, ByteArray.append_assoc]
    rw [hparts, hend]
    exact extract_middle _ _ _
  · have hend : 4 + L = (frame L m junk).size := by omega
    rw [after, ByteArray.size_append]
    exact ByteArray.extract_append_eq_right hend rfl

/-- A buffer with its length and its kind begins with a frame. -/
lemma eq_frame_append {junk : ByteArray} (hlength : 1 ≤ length buffer)
    (hsize : 4 + length buffer ≤ buffer.size) (hcode : buffer[4]?.getD 0 = m.type.code)
    (hbody : buffer.extract 5 (4 + length buffer) = Body.encode m ++ junk) :
    buffer = frame (length buffer) m junk ++ after buffer (4 + length buffer) := by
  have hkind : buffer.extract 4 5 = ofBytes [m.type.code] := by
    have hlt : 4 < buffer.size := by omega
    rw [getElem?_pos _ 4 hlt, Option.getD_some] at hcode
    rw [ByteArray.extract_add_one hlt, hcode, ofBytes_eq]
  rw [frame_eq, lengthBytes_length (by omega), ← hkind, ← hbody, after,
    ← ByteArray.extract_eq_extract_append_extract 5 (by omega) (by omega),
    ← ByteArray.extract_eq_extract_append_extract 4 (by omega) (by omega),
    ← ByteArray.extract_eq_extract_append_extract _ (by omega) (by omega),
    ByteArray.extract_zero_size]

/-- Decoding gives a message and uses so many bytes exactly when the buffer begins with a frame of
the message. -/
theorem decode_iff :
    n ≤ buffer.size ∧ decode buffer = (.ok (some m), after buffer n) ↔
      ∃ L junk rest, buffer = frame L m junk ++ rest ∧
        L = 1 + (Body.encode m).size + junk.size ∧ 1 ≤ L ∧ L ≤ maxSize ∧ n = 4 + L := by
  constructor
  · rintro ⟨hn, h⟩
    obtain ⟨-, hone, hmax, hsize, hcode, hafter, junk, hbody⟩ := decode_eq_some_iff.mp h
    refine ⟨length buffer, junk, _, eq_frame_append hone hsize hcode hbody, ?_, hone, hmax, ?_⟩
    · have hjunk := congrArg ByteArray.size hbody
      rw [ByteArray.size_extract, ByteArray.size_append] at hjunk
      omega
    · -- the buffer that is left tells how many bytes are used
      have hleft := congrArg ByteArray.size hafter
      rw [after, after, ByteArray.size_extract, ByteArray.size_extract] at hleft
      omega
  · rintro ⟨L, junk, rest, rfl, hL, hone, hmax, rfl⟩
    obtain ⟨hlength, hcode, hbody, hrest⟩ := parts_frame hL hmax rest
    have hsize := size_frame L m junk
    have happend : (frame L m junk ++ rest).size = (frame L m junk).size + rest.size :=
      ByteArray.size_append
    refine ⟨by omega, decode_eq_some_iff.mpr ?_⟩
    rw [hlength]
    exact ⟨by omega, hone, hmax, by omega, hcode, rfl, junk, hbody⟩

/-- No two frames begin one buffer. -/
theorem frame_append_inj {L L' : Nat} {m m' : Message} {junk junk' rest rest' : ByteArray}
    (hL : L = 1 + (Body.encode m).size + junk.size) (hmax : L ≤ maxSize)
    (hL' : L' = 1 + (Body.encode m').size + junk'.size) (hmax' : L' ≤ maxSize)
    (h : frame L m junk ++ rest = frame L' m' junk' ++ rest') :
    L = L' ∧ m = m' ∧ junk = junk' ∧ rest = rest' := by
  have hdecode := (decode_iff (n := 4 + L)).mpr ⟨L, junk, rest, rfl, hL, by omega, hmax, rfl⟩
  have hdecode' := (decode_iff (n := 4 + L')).mpr
    ⟨L', junk', rest', rfl, hL', by omega, hmax', rfl⟩
  rw [h] at hdecode
  obtain ⟨hm, -⟩ := Prod.mk.inj (hdecode.2.symm.trans hdecode'.2)
  obtain rfl := Option.some.inj (Except.ok.inj hm)
  have hlength := (parts_frame hL hmax rest).1
  rw [h, (parts_frame hL' hmax' rest').1] at hlength
  subst hlength
  have hjunk : (frame L' m junk).size = (frame L' m junk').size := by
    rw [size_frame, size_frame]
    omega
  obtain ⟨hframe, hrest⟩ := (ByteArray.append_eq_append_iff_of_size_eq_left hjunk).mp h
  rw [frame, frame, ByteArray.append_right_inj] at hframe
  exact ⟨rfl, rfl, hframe, hrest⟩

/-- The format of frames. Decoding finds a message exactly where a frame of it stands; what encoding
writes is read back, and nothing behind it is touched; no buffer begins with two frames; and
encoding writes the frame without bytes behind the body, or refuses one that is too long. -/
theorem format :
    (∀ buffer m n, n ≤ buffer.size ∧ decode buffer = (.ok (some m), after buffer n) ↔
      ∃ L junk rest, buffer = frame L m junk ++ rest ∧
        L = 1 + (Body.encode m).size + junk.size ∧ 1 ≤ L ∧ L ≤ maxSize ∧ n = 4 + L) ∧
    (∀ m bytes rest, encode m = .ok bytes → decode (bytes ++ rest) = (.ok (some m), rest)) ∧
    (∀ L L' m m' junk junk' rest rest', L = 1 + (Body.encode m).size + junk.size → L ≤ maxSize →
      L' = 1 + (Body.encode m').size + junk'.size → L' ≤ maxSize →
      frame L m junk ++ rest = frame L' m' junk' ++ rest' →
        L = L' ∧ m = m' ∧ junk = junk' ∧ rest = rest') ∧
    (∀ m, encode m = if maxSize < 1 + (Body.encode m).size then
        .error (.messageTooLarge (1 + (Body.encode m).size))
      else .ok (frame (1 + (Body.encode m).size) m .empty)) := by
  refine ⟨fun _ _ _ => decode_iff, fun m bytes rest h => ?_, ?_, encode_eq⟩
  · rw [encode_eq] at h
    split_ifs at h with hlarge
    obtain rfl := Except.ok.inj h
    have hL : 1 + (Body.encode m).size = 1 + (Body.encode m).size + ByteArray.empty.size := rfl
    have hmax := Nat.le_of_not_lt hlarge
    have hdecode := decode_iff.mpr ⟨_, .empty, rest, rfl, hL, by omega, hmax, rfl⟩
    rw [hdecode.2, (parts_frame hL hmax rest).2.2.2]
  · intro L L' m m' junk junk' rest rest' hL hmax hL' hmax' h
    exact frame_append_inj hL hmax hL' hmax' h

/-- Two bytes behind the body are skipped, the one behind the frame is left. -/
theorem format_heartbeat :
    decode ⟨#[0, 0, 0, 12, 5, 1, 0, 0, 0, 0, 0, 0, 0, 97, 255, 254, 7]⟩
      = (.ok (some (.heartbeat "a")), ⟨#[7]⟩) := by
  have hframe : (⟨#[0, 0, 0, 12, 5, 1, 0, 0, 0, 0, 0, 0, 0, 97, 255, 254, 7]⟩ : ByteArray)
      = frame 12 (.heartbeat "a") ⟨#[255, 254]⟩ ++ ⟨#[7]⟩ := by decide +kernel
  have hdecode := (format.1 _ (.heartbeat "a") 16).mpr
    ⟨12, ⟨#[255, 254]⟩, ⟨#[7]⟩, hframe, by decide +kernel, by decide, by decide, rfl⟩
  exact hdecode.2

end Frame

end LeaseQueue
