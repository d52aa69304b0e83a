/-
Readers that take exactly what is written.

* `littleEndianValue_littleEndian`, `littleEndian_littleEndianValue`: numbers and their bytes;
* `Occurs`, `occurs_append`: bytes that stand in others from one place to another;
* `Reads`: a reader gives a value exactly where its written form stands, and goes on behind it;
* `bind_eq_ok`, `pure_eq_ok`, `nat_eq_ok`: the steps of a reader;
* `reads_text` to `reads_list`: texts, truth values, numbers with sign, optional parts and lists.

Lengths are written in 64 bits, so all of this is about bytes whose number fits in them.
-/
import LeaseQueue.Wire.Body
import Mathlib.Tactic

namespace LeaseQueue.Body

/-! ### Numbers -/

@[simp] lemma size_ofBytes (l : List UInt8) : (ofBytes l).size = l.length := rfl

@[simp] lemma length_littleEndian (width n : Nat) : (littleEndian width n).length = width := by
  induction width generalizing n with
  | zero => rfl
  | succ width ih => rw [littleEndian, List.length_cons, ih]

@[simp] lemma size_nat (width n : Nat) : (nat width n).size = width := by
  rw [nat, size_ofBytes, length_littleEndian]

lemma littleEndianValue_lt (l : List UInt8) : littleEndianValue l < 256 ^ l.length := by
  induction l with
  | nil => exact Nat.one_pos
  | cons b l ih =>
      have hb := b.toNat_lt
      rw [littleEndianValue, List.length_cons, Nat.pow_succ]
      omega

/-- Bytes hold a number as far as they reach. -/
lemma littleEndianValue_littleEndian (width n : Nat) :
    littleEndianValue (littleEndian width n) = n % 256 ^ width := by
  induction width generalizing n with
  | zero => rw [Nat.pow_zero, Nat.mod_one]; rfl
  | succ width ih =>
      have hbyte : (UInt8.ofNat (n % 256)).toNat = n % 256 := by simp
      rw [littleEndian, littleEndianValue, ih, hbyte, Nat.pow_succ, Nat.mul_comm (256 ^ width),
        Nat.mod_mul]

/-- Bytes are those of their number. -/
lemma littleEndian_littleEndianValue (l : List UInt8) :
    littleEndian l.length (littleEndianValue l) = l := by
  induction l with
  | nil => rfl
  | cons b l ih =>
      have hb := b.toNat_lt
      have hmod : (b.toNat + 256 * littleEndianValue l) % 256 = b.toNat := by omega
      have hdiv : (b.toNat + 256 * littleEndianValue l) / 256 = littleEndianValue l := by omega
      rw [littleEndianValue, List.length_cons, littleEndian, hmod, hdiv, ih, UInt8.ofNat_toNat]

/-! ### Places -/

/-- Bytes stand in others from one place to another. -/
structure Occurs (bytes : ByteArray) (place : Nat) (x : ByteArray) (next : Nat) : Prop where
  next_eq : next = place + x.size
  next_le : next ≤ bytes.size
  extract_eq : bytes.extract place next = x

variable {bytes x y : ByteArray} {place next n width : Nat}

lemma Occurs.place_le (h : Occurs bytes place x next) : place ≤ bytes.size := by
  have hnext := h.next_eq
  have hle := h.next_le
  omega

lemma Occurs.size_le (h : Occurs bytes place x next) : x.size ≤ bytes.size := by
  have hnext := h.next_eq
  have hle := h.next_le
  omega

/-- Nothing stands everywhere. -/
lemma occurs_empty : Occurs bytes place .empty next ↔ next = place ∧ place ≤ bytes.size := by
  constructor
  · intro h
    exact ⟨h.next_eq, h.place_le⟩
  · rintro ⟨rfl, hle⟩
    exact ⟨rfl, hle, ByteArray.extract_same⟩

/-- Bytes after others stand where these end. -/
lemma occurs_append :
    Occurs bytes place (x ++ y) next ↔
      ∃ mid, Occurs bytes place x mid ∧ Occurs bytes mid y next := by
  constructor
  · rintro ⟨hnext, hle, hextract⟩
    rw [ByteArray.size_append] at hnext
    rw [ByteArray.extract_eq_extract_append_extract (place + x.size) (by omega) (by omega)]
      at hextract
    have hsize : (bytes.extract place (place + x.size)).size = x.size := by
      rw [ByteArray.size_extract]
      omega
    obtain ⟨hx, hy⟩ := (ByteArray.append_eq_append_iff_of_size_eq_left hsize).mp hextract
    exact ⟨place + x.size, ⟨rfl, by omega, hx⟩, by omega, hle, hy⟩
  · rintro ⟨mid, ⟨hmid, -, hx⟩, hnext, hle, hy⟩
    refine ⟨by rw [ByteArray.size_append]; omega, hle, ?_⟩
    rw [ByteArray.extract_eq_extract_append_extract mid (by omega) (by omega), hx, hy]

/-! ### Steps of a reader -/

namespace Reader

variable {α β : Type}

/-- A reader gives a value exactly where its written form stands, and goes on behind it. -/
structure Reads (read : Reader α) (write : α → ByteArray) : Prop where
  eq_ok_iff : ∀ {bytes : ByteArray} {place : Nat} {a : α} {next : Nat}, bytes.size < 2 ^ 64 →
    (read bytes place = .ok (a, next) ↔ Occurs bytes place (write a) next)

lemma bind_eq_ok {r : Reader α} {f : α → Reader β} {b : β} :
    (r >>= f) bytes place = .ok (b, next) ↔
      ∃ a mid, r bytes place = .ok (a, mid) ∧ f a bytes mid = .ok (b, next) := by
  change andThen r f bytes place = _ ↔ _
  rw [andThen]
  rcases r bytes place with e | ⟨a, mid⟩
  · simp
  · simp

lemma pure_eq_ok {b b' : β} :
    (Pure.pure b : Reader β) bytes place = .ok (b', next) ↔ b = b' ∧ place = next := by
  change Except.ok (b, place) = _ ↔ _
  rw [Except.ok.injEq, Prod.mk.injEq]

lemma fail_ne_ok {e : BodyError} {b : β} : ¬ (fail e : Reader β) bytes place = .ok (b, next) := by
  rw [fail]
  simp

lemma slice_eq_ok {short : BodyError} :
    slice n short bytes place = .ok (x, next) ↔ x.size = n ∧ Occurs bytes place x next := by
  rw [slice]
  split_ifs with hle
  · rw [Except.ok.injEq, Prod.mk.injEq]
    constructor
    · rintro ⟨rfl, rfl⟩
      have hsize : (bytes.extract place (place + n)).size = n := by
        rw [ByteArray.size_extract]
        omega
      exact ⟨hsize, by rw [hsize], hle, rfl⟩
    · rintro ⟨rfl, rfl, -, hextract⟩
      exact ⟨hextract, rfl⟩
  · simp only [false_iff, not_and]
    rintro rfl ⟨rfl, hnext, -⟩
    exact hle hnext

/-- A number is read from the bytes that are written for it, if they hold it. -/
lemma nat_eq_ok :
    nat width bytes place = .ok (n, next) ↔
      n < 256 ^ width ∧ Occurs bytes place (Body.nat width n) next := by
  rw [nat, bind_eq_ok]
  constructor
  · rintro ⟨x, mid, hslice, hpure⟩
    obtain ⟨hsize, hoccurs⟩ := slice_eq_ok.mp hslice
    obtain ⟨rfl, rfl⟩ := pure_eq_ok.mp hpure
    have hlength : x.data.toList.length = width := hsize
    have hx : Body.nat width (littleEndianValue x.data.toList) = x := by
      rw [Body.nat, ← hlength, littleEndian_littleEndianValue]
      rfl
    refine ⟨?_, by rwa [hx]⟩
    rw [← hlength]
    exact littleEndianValue_lt _
  · rintro ⟨hlt, hoccurs⟩
    refine ⟨Body.nat width n, next, slice_eq_ok.mpr ⟨size_nat width n, hoccurs⟩, ?_⟩
    refine pure_eq_ok.mpr ⟨?_, rfl⟩
    change littleEndianValue (littleEndian width n) = n
    rw [littleEndianValue_littleEndian, Nat.mod_eq_of_lt hlt]

/-! ### Single values -/

lemma fromUTF8?_eq_some {s : String} : String.fromUTF8? x = some s ↔ x = s.toUTF8 := by
  rw [String.fromUTF8?]
  constructor
  · intro h
    split_ifs at h
    rw [← Option.some.inj h]
    rfl
  · rintro rfl
    rw [String.toUTF8_eq_toByteArray, dif_pos s.isValidUTF8]
    rfl

theorem reads_text : Reads text Body.text where
  eq_ok_iff {bytes place s next} hsize := by
    rw [text, bind_eq_ok, Body.text, occurs_append]
    constructor
    · rintro ⟨n, mid, hn, htext⟩
      obtain ⟨-, hn⟩ := nat_eq_ok.mp hn
      obtain ⟨x, mid', hslice, hutf⟩ := bind_eq_ok.mp htext
      obtain ⟨rfl, hx⟩ := slice_eq_ok.mp hslice
      cases hs : String.fromUTF8? x with
      | none => simp [hs, fail_ne_ok] at hutf
      | some s' =>
          simp only [hs] at hutf
          obtain ⟨rfl, rfl⟩ := pure_eq_ok.mp hutf
          obtain rfl := fromUTF8?_eq_some.mp hs
          exact ⟨mid, hn, hx⟩
    · rintro ⟨mid, hn, hs⟩
      have hlt : s.utf8ByteSize < 256 ^ 8 := Nat.lt_of_le_of_lt hs.size_le hsize
      refine ⟨s.utf8ByteSize, mid, nat_eq_ok.mpr ⟨hlt, hn⟩, bind_eq_ok.mpr ?_⟩
      refine ⟨s.toUTF8, next, slice_eq_ok.mpr ⟨rfl, hs⟩, ?_⟩
      rw [fromUTF8?_eq_some.mpr rfl]
      exact pure_eq_ok.mpr ⟨rfl, rfl⟩

theorem reads_bool : Reads bool Body.bool where
  eq_ok_iff {bytes place b next} _ := by
    rw [bool, bind_eq_ok, Body.bool]
    constructor
    · rintro ⟨n, mid, hn, hbool⟩
      obtain ⟨-, hn⟩ := nat_eq_ok.mp hn
      rcases n with _ | _ | n
      · obtain ⟨rfl, rfl⟩ := pure_eq_ok.mp hbool
        exact hn
      · obtain ⟨rfl, rfl⟩ := pure_eq_ok.mp hbool
        exact hn
      · exact absurd hbool fail_ne_ok
    · intro hb
      cases b with
      | false => exact ⟨0, next, nat_eq_ok.mpr ⟨by decide, hb⟩, pure_eq_ok.mpr ⟨rfl, rfl⟩⟩
      | true => exact ⟨1, next, nat_eq_ok.mpr ⟨by decide, hb⟩, pure_eq_ok.mpr ⟨rfl, rfl⟩⟩

/-- Values that stand for the numbers of a width are read as those numbers. -/
lemma reads_ofNat {f : Nat → α} {g : α → Nat} (hlt : ∀ a, g a < 256 ^ width)
    (hback : ∀ n, n < 256 ^ width → g (f n) = n) (hforth : ∀ a, f (g a) = a) :
    Reads (nat width >>= fun n => Pure.pure (f n)) fun a => Body.nat width (g a) where
  eq_ok_iff {bytes place a next} _ := by
    rw [bind_eq_ok]
    constructor
    · rintro ⟨n, mid, hn, hpure⟩
      obtain ⟨hlt, hn⟩ := nat_eq_ok.mp hn
      obtain ⟨rfl, rfl⟩ := pure_eq_ok.mp hpure
      rwa [hback n hlt]
    · intro ha
      exact ⟨g a, next, nat_eq_ok.mpr ⟨hlt a, ha⟩, pure_eq_ok.mpr ⟨hforth a, rfl⟩⟩

theorem reads_int64 : Reads int64 Body.int64 := by
  refine reads_ofNat (fun a => a.toUInt64.toNat_lt) (fun n hn => ?_) (fun a => ?_)
  · rw [UInt64.toUInt64_toInt64, UInt64.toNat_ofNat']
    exact Nat.mod_eq_of_lt hn
  · rw [UInt64.ofNat_toNat, Int64.toInt64_toUInt64]

theorem reads_int32 : Reads int32 Body.int32 := by
  refine reads_ofNat (fun a => a.toUInt32.toNat_lt) (fun n hn => ?_) (fun a => ?_)
  · rw [UInt32.toUInt32_toInt32, UInt32.toNat_ofNat']
    exact Nat.mod_eq_of_lt hn
  · rw [UInt32.ofNat_toNat, Int32.toInt32_toUInt32]

/-! ### Optional parts and lists -/

variable {read : Reader α} {write : α → ByteArray}

theorem Reads.option (h : Reads read write) : Reads (option read) (Body.option write) where
  eq_ok_iff {bytes place o next} hsize := by
    rw [Reader.option, bind_eq_ok]
    constructor
    · rintro ⟨n, mid, hn, hoption⟩
      obtain ⟨-, hn⟩ := nat_eq_ok.mp hn
      rcases n with _ | _ | n
      · obtain ⟨rfl, rfl⟩ := pure_eq_ok.mp hoption
        exact hn
      · obtain ⟨a, mid', ha, hpure⟩ := bind_eq_ok.mp hoption
        obtain ⟨rfl, rfl⟩ := pure_eq_ok.mp hpure
        exact occurs_append.mpr ⟨mid, hn, (h.eq_ok_iff hsize).mp ha⟩
      · exact absurd hoption fail_ne_ok
    · intro ho
      cases o with
      | none => exact ⟨0, next, nat_eq_ok.mpr ⟨by decide, ho⟩, pure_eq_ok.mpr ⟨rfl, rfl⟩⟩
      | some a =>
          obtain ⟨mid, hmark, ha⟩ := occurs_append.mp ho
          refine ⟨1, mid, nat_eq_ok.mpr ⟨by decide, hmark⟩, bind_eq_ok.mpr ?_⟩
          exact ⟨a, next, (h.eq_ok_iff hsize).mpr ha, pure_eq_ok.mpr ⟨rfl, rfl⟩⟩

end Reader

/-- The written forms of the members of a list. -/
def joined {α : Type} (write : α → ByteArray) : List α → ByteArray
  | [] => .empty
  | a :: l => write a ++ joined write l

lemma list_eq {α : Type} (write : α → ByteArray) (l : List α) :
    list write l = nat 8 l.length ++ joined write l := by
  have hfold : ∀ bytes, l.foldl (fun bytes a => bytes ++ write a) bytes
      = bytes ++ joined write l := by
    induction l with
    | nil => intro bytes; rw [joined, ByteArray.append_empty]; rfl
    | cons a l ih =>
        intro bytes
        rw [List.foldl_cons, ih, joined, ByteArray.append_assoc]
  exact hfold _

/-- Where every member takes a byte, there are no more members than bytes. -/
lemma length_le_size_joined {α : Type} {write : α → ByteArray} (hpos : ∀ a, 0 < (write a).size)
    (l : List α) : l.length ≤ (joined write l).size := by
  induction l with
  | nil => exact Nat.zero_le _
  | cons a l ih =>
      have ha := hpos a
      rw [joined, List.length_cons, ByteArray.size_append]
      omega

namespace Reader

variable {α : Type} {read : Reader α} {write : α → ByteArray}

lemma Reads.items_eq_ok (h : Reads read write) (hsize : bytes.size < 2 ^ 64) {done l : List α}
    (hplace : place ≤ bytes.size) :
    items read n done bytes place = .ok (l, next) ↔
      ∃ l', l'.length = n ∧ l = done.reverse ++ l' ∧
        Occurs bytes place (joined write l') next := by
  induction n generalizing done place with
  | zero =>
      rw [items]
      constructor
      · intro hpure
        obtain ⟨rfl, rfl⟩ := pure_eq_ok.mp hpure
        exact ⟨[], rfl, by simp, occurs_empty.mpr ⟨rfl, hplace⟩⟩
      · rintro ⟨l', hl', rfl, hoccurs⟩
        obtain rfl := List.length_eq_zero_iff.mp hl'
        obtain ⟨rfl, -⟩ := occurs_empty.mp hoccurs
        exact pure_eq_ok.mpr ⟨by simp, rfl⟩
  | succ n ih =>
      have hstep : items read (n + 1) done bytes place = .ok (l, next) ↔
          ∃ a mid, read bytes place = .ok (a, mid) ∧
            items read n (a :: done) bytes mid = .ok (l, next) := by
        rw [items]
        rcases hread : read bytes place with e | ⟨a, mid⟩ <;> simp [hread]
      rw [hstep]
      constructor
      · rintro ⟨a, mid, ha, hrest⟩
        have ha := (h.eq_ok_iff hsize).mp ha
        obtain ⟨l', rfl, rfl, hoccurs⟩ := (ih ha.next_le).mp hrest
        refine ⟨a :: l', rfl, by simp, occurs_append.mpr ⟨mid, ha, hoccurs⟩⟩
      · rintro ⟨l', hl', rfl, hoccurs⟩
        obtain ⟨a, l', rfl⟩ := List.exists_cons_of_length_eq_add_one hl'
        obtain ⟨mid, ha, hoccurs⟩ := occurs_append.mp hoccurs
        refine ⟨a, mid, (h.eq_ok_iff hsize).mpr ha, (ih ha.next_le).mpr ?_⟩
        exact ⟨l', by simpa using hl', by simp, hoccurs⟩

theorem Reads.list (h : Reads read write) (hpos : ∀ a, 0 < (write a).size) :
    Reads (list read) (Body.list write) where
  eq_ok_iff {bytes place l next} hsize := by
    rw [Reader.list, bind_eq_ok, list_eq, occurs_append]
    constructor
    · rintro ⟨n, mid, hn, hitems⟩
      obtain ⟨-, hn⟩ := nat_eq_ok.mp hn
      obtain ⟨l', rfl, rfl, hoccurs⟩ := (h.items_eq_ok hsize hn.next_le).mp hitems
      exact ⟨mid, hn, hoccurs⟩
    · rintro ⟨mid, hn, hoccurs⟩
      have hlength := length_le_size_joined hpos l
      have hlt : l.length < 256 ^ 8 := by
        have hle := hoccurs.size_le
        omega
      refine ⟨l.length, mid, nat_eq_ok.mpr ⟨hlt, hn⟩, (h.items_eq_ok hsize hn.next_le).mpr ?_⟩
      exact ⟨l, rfl, rfl, hoccurs⟩

end Reader

end LeaseQueue.Body
