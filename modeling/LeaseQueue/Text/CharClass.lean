/-
Classes of characters, given by ranges of code points.

* `CharClass`: ranges in increasing order, none of them touching the next;
* `CharClass.contains`: whether a character is in a class, by halving the ranges.
-/

namespace LeaseQueue.Text

/-- A class of characters. -/
structure CharClass where
  /-- The first and the last code point of each range. -/
  ranges : Array (Nat × Nat)
deriving Repr

namespace CharClass

/-- Whether the ranges are in increasing order, with gaps between them. -/
def isSorted (s : CharClass) : Bool :=
  let l := s.ranges.toList
  l.all (fun r => r.1 ≤ r.2) && (l.zip l.tail).all fun (a, b) => a.2 + 1 < b.1

/-- Whether a code point is in one of the ranges from `low` on and before `high`. -/
def search (s : CharClass) (n : Nat) : (fuel low high : Nat) → Bool
  | 0, _, _ => false
  | fuel + 1, low, high =>
    let middle := (low + high) / 2
    match s.ranges[middle]? with
    | none => false
    | some (first, last) =>
      if high ≤ low then false
      else if n < first then search s n fuel low middle
      else if last < n then search s n fuel (middle + 1) high
      else true

/-- Whether a character is in the class. -/
def contains (s : CharClass) (c : Char) : Bool :=
  s.search c.toNat (s.ranges.size + 1) 0 s.ranges.size

example : (CharClass.mk #[(0x41, 0x5A), (0x61, 0x7A)]).contains 'Q' = true := by decide
example : (CharClass.mk #[(0x41, 0x5A), (0x61, 0x7A)]).contains '[' = false := by decide
example : (CharClass.mk #[]).contains 'Q' = false := by decide

end CharClass

end LeaseQueue.Text
