/-
Decimal numbers with a point and a power of ten.

* `Scientific.read?`: digits with an optional point among, before or after them, and an optional
  power of ten; the digits as one number, and the power of ten of the last of them;
* `Scientific.nearest?`: the floating-point number nearest to such a text.
-/
import LeaseQueue.Number.Binary64

namespace LeaseQueue.Scientific

/-- At least one digit, as a number. -/
def digits? (cs : List Char) : Option Nat :=
  if cs.isEmpty || !cs.all Char.isDigit then none else some (Nat.ofDigitChars 10 cs 0)

/-- A power of ten, which stands after a letter and may have a sign. -/
def power? : List Char → Option Int
  | [] => some 0
  | mark :: rest =>
    if mark = 'e' ∨ mark = 'E' then
      match rest with
      | '-' :: ds => (digits? ds).map fun n => -(n : Int)
      | '+' :: ds => (digits? ds).map Int.ofNat
      | ds => (digits? ds).map Int.ofNat
    else none

/-- The digits as one number, and the power of ten of the last of them. -/
def read? (cs : List Char) : Option (Nat × Int) :=
  let (whole, rest) := cs.span Char.isDigit
  let (part, rest) := match rest with
    | '.' :: rest => rest.span Char.isDigit
    | rest => ([], rest)
  if whole.isEmpty && part.isEmpty then none
  else
    (power? rest).map fun power =>
      (Nat.ofDigitChars 10 (whole ++ part) 0, power - part.length)

/-- The floating-point number nearest to an unsigned text, to which a sign is given; no number for
other texts and beyond the largest number. -/
def nearest? (negative : Bool) (cs : List Char) : Option Binary64 :=
  (read? cs).bind fun (m, e) => Binary64.ofScientific? negative m e

example : read? "1.50e3".toList = some (150, 1) := by decide +kernel
example : read? ".5".toList = some (5, -1) := by decide +kernel
example : read? "5.".toList = some (5, 0) := by decide +kernel
example : read? ".".toList = none := by decide +kernel
example : read? "1e".toList = none := by decide +kernel

end LeaseQueue.Scientific
