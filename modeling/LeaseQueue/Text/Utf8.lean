/-
Where a sequence of bytes stops being UTF-8.

* `Text.Utf8Fault`: the number of bytes before the first fault, and the length of the faulty
  sequence, none when the bytes end inside a character;
* `Text.utf8Fault?`: the first fault of a sequence of bytes;
* `Text.Utf8Fault.message`: its wording.

A character is one of the well-formed sequences of one to four bytes: no overlong form, no
surrogate, nothing above U+10FFFF.
-/

namespace LeaseQueue.Text

/-- The first place where bytes are not UTF-8. -/
structure Utf8Fault where
  /-- The number of valid bytes in front. -/
  validBytes : Nat
  /-- The length of the invalid sequence, none when it is cut off by the end. -/
  badBytes : Option Nat
deriving DecidableEq, Repr

/-- The wording of a fault. -/
def Utf8Fault.message (f : Utf8Fault) : String :=
  match f.badBytes with
  | some n => s!"invalid utf-8 sequence of {n} bytes from index {f.validBytes}"
  | none => s!"incomplete utf-8 byte sequence from index {f.validBytes}"

/-- One character, or what is wrong with it. -/
inductive Utf8Step where
  /-- A character of so many bytes. -/
  | character (length : Nat)
  /-- An invalid sequence of so many bytes. -/
  | invalid (length : Nat)
  /-- The bytes end inside a character. -/
  | cut
deriving DecidableEq, Repr

/-- The range of the second byte and the number of bytes after it, by the first byte of a
character of several bytes. -/
def leadByte? (b : Nat) : Option ((Nat × Nat) × Nat) :=
  if 0xC2 ≤ b ∧ b ≤ 0xDF then some ((0x80, 0xBF), 0)
  else if b = 0xE0 then some ((0xA0, 0xBF), 1)
  else if b = 0xED then some ((0x80, 0x9F), 1)
  else if 0xE1 ≤ b ∧ b ≤ 0xEF then some ((0x80, 0xBF), 1)
  else if b = 0xF0 then some ((0x90, 0xBF), 2)
  else if 0xF1 ≤ b ∧ b ≤ 0xF3 then some ((0x80, 0xBF), 2)
  else if b = 0xF4 then some ((0x80, 0x8F), 2)
  else none

/-- Continuation bytes from `at`, of which `more` are due; `read` have been read. -/
def utf8Tail (bytes : ByteArray) (place read : Nat) : (more : Nat) → Utf8Step
  | 0 => .character read
  | more + 1 =>
    match bytes[place]? with
    | none => .cut
    | some b =>
      if 0x80 ≤ b.toNat ∧ b.toNat ≤ 0xBF then utf8Tail bytes (place + 1) (read + 1) more
      else .invalid read

/-- The character that starts at a place. -/
def utf8Step (bytes : ByteArray) (place : Nat) (first : UInt8) : Utf8Step :=
  if first.toNat < 0x80 then .character 1
  else match leadByte? first.toNat with
    | none => .invalid 1
    | some ((low, high), more) =>
      match bytes[place + 1]? with
      | none => .cut
      | some second =>
        if low ≤ second.toNat ∧ second.toNat ≤ high then utf8Tail bytes (place + 2) 2 more
        else .invalid 1

/-- The first fault at or after a place, within so many characters. -/
def utf8FaultFrom (bytes : ByteArray) : (fuel place : Nat) → Option Utf8Fault
  | 0, _ => none
  | fuel + 1, place =>
    match bytes[place]? with
    | none => none
    | some first =>
      match utf8Step bytes place first with
      | .character n => utf8FaultFrom bytes fuel (place + n)
      | .invalid n => some ⟨place, some n⟩
      | .cut => some ⟨place, none⟩

/-- The first fault of a sequence of bytes. -/
def utf8Fault? (bytes : ByteArray) : Option Utf8Fault := utf8FaultFrom bytes bytes.size 0

example : utf8Fault? "aé日😀".toUTF8 = none := by decide +kernel
example : utf8Fault? ⟨#[0x61, 0xFF]⟩ = some ⟨1, some 1⟩ := by decide
example : utf8Fault? ⟨#[0xE6, 0x97]⟩ = some ⟨0, none⟩ := by decide
example : utf8Fault? ⟨#[0xF0, 0x9F, 0x41, 0x41]⟩ = some ⟨0, some 2⟩ := by decide

end LeaseQueue.Text
