/-
Whole numbers as decimal text, within fixed ranges.

* `Decimal.ofNat`, `Decimal.ofInt`: the digits without leading zeros, a minus sign in front of
  negative numbers;
* `Decimal.nat?`, `Decimal.int?`: reading; a sign may stand in front, leading zeros are allowed,
  nothing else is;
* `Decimal.int64?`, `Decimal.uint32?`: reading into a word, refused when out of range.

Main statements: `nat?_ofNat`, `int?_ofInt`, `int64?_text` and `uint32?_text`, writing then reading
gives the number back.
-/

namespace LeaseQueue.Decimal

/-! ### Writing -/

/-- The decimal digits of a natural number. -/
def ofNat (n : Nat) : List Char := Nat.toDigits 10 n

/-- The decimal digits of an integer, after a minus sign if it is negative. -/
def ofInt (n : Int) : List Char :=
  if n < 0 then '-' :: ofNat n.natAbs else ofNat n.natAbs

/-- The decimal text of an integer. -/
def text (n : Int) : String := String.ofList (ofInt n)

/-! ### Reading -/

/-- The number written by a nonempty list of digits. -/
def nat? (l : List Char) : Option Nat :=
  if l.isEmpty then none
  else if l.all Char.isDigit then some (Nat.ofDigitChars 10 l 0)
  else none

/-- The number written by digits after an optional plus sign. -/
def unsigned? : List Char → Option Nat
  | '+' :: rest => nat? rest
  | l => nat? l

/-- The number written by digits after an optional sign. -/
def int? : List Char → Option Int
  | '-' :: rest => (nat? rest).map fun n : Nat => -(n : Int)
  | '+' :: rest => (nat? rest).map Int.ofNat
  | l => (nat? l).map Int.ofNat

/-- A signed number of 64 bits. -/
def int64? (s : String) : Option Int64 :=
  (int? s.toList).bind fun n =>
    if Int64.minValue.toInt ≤ n ∧ n ≤ Int64.maxValue.toInt then some (Int64.ofInt n) else none

/-- An unsigned number of 32 bits. -/
def uint32? (s : String) : Option UInt32 :=
  (unsigned? s.toList).bind fun n => if n < UInt32.size then some (UInt32.ofNat n) else none

/-! ### Writing, then reading -/

theorem isDigit_of_mem_ofNat {n : Nat} {c : Char} (h : c ∈ ofNat n) : c.isDigit = true :=
  Nat.isDigit_of_mem_toDigits (by decide) (by decide) h

theorem nat?_ofNat (n : Nat) : nat? (ofNat n) = some n := by
  have hne : (ofNat n).isEmpty = false := by
    simp [ofNat, Nat.toDigits_ne_nil]
  have hall : (ofNat n).all Char.isDigit = true := by
    simp only [List.all_eq_true]
    exact fun c hc => isDigit_of_mem_ofNat hc
  simp only [nat?, hne, hall]
  simp [ofNat, Nat.ofDigitChars_ten_toDigits]

theorem int?_ofInt (n : Int) : int? (ofInt n) = some n := by
  have hn := nat?_ofNat n.natAbs
  unfold ofInt
  split
  · have hneg : -(n.natAbs : Int) = n := by omega
    simp only [int?, hn, Option.map_some, hneg]
  · have hpos : (n.natAbs : Int) = n := by omega
    unfold int?
    split
    · rename_i rest heq
      exact absurd (isDigit_of_mem_ofNat (n := n.natAbs) (c := '-') (by simp [heq])) (by decide)
    · rename_i rest heq
      exact absurd (isDigit_of_mem_ofNat (n := n.natAbs) (c := '+') (by simp [heq])) (by decide)
    · rw [hn, Option.map_some, Int.ofNat_eq_natCast, hpos]

theorem unsigned?_ofNat (n : Nat) : unsigned? (ofNat n) = some n := by
  unfold unsigned?
  split
  · rename_i rest heq
    exact absurd (isDigit_of_mem_ofNat (n := n) (c := '+') (by simp [heq])) (by decide)
  · exact nat?_ofNat n

theorem int64?_text (n : Int64) : int64? (text n.toInt) = some n := by
  have h : Int64.minValue.toInt ≤ n.toInt ∧ n.toInt ≤ Int64.maxValue.toInt :=
    ⟨Int64.minValue_le_toInt n, Int64.toInt_le n⟩
  rw [int64?, text, String.toList_ofList, int?_ofInt, Option.bind_some, if_pos h, Int64.ofInt_toInt]

theorem uint32?_text (n : UInt32) : uint32? (text n.toNat) = some n := by
  have h : ofInt (n.toNat : Int) = ofNat n.toNat := by
    simp [ofInt, show ¬ ((n.toNat : Int) < 0) from by omega]
  rw [uint32?, text, String.toList_ofList, h, unsigned?_ofNat, Option.bind_some,
    if_pos n.toNat_lt_size, UInt32.ofNat_toNat]

end LeaseQueue.Decimal
