/-
Positive binary numbers of 64 significant bits, rounded after every step.

* `Extended`: a significand and a power of two, which is not bounded;
* `Extended.ofRatio`, `mul`: the nearest number, a half goes to the even significand;
* `Extended.scale`: a number times a power of ten, by a hundred, ten or one of its places at a time;
* `Extended.toBinary64?`: the nearest number of 64 bits in all, none beyond the largest one.
-/
import LeaseQueue.Number.Binary64

namespace LeaseQueue

/-- The number `significand · 2 ^ exponent`. -/
structure Extended where
  significand : Nat
  exponent : Int
deriving DecidableEq, Repr

namespace Extended

/-- The number of significant bits. -/
def precision : Nat := 64

/-- The number nearest to `n · 2 ^ e`. -/
def round (n : Nat) (e : Int) : Extended :=
  let excess := n.log2 + 1 - precision
  ⟨Binary64.divNearestEven n (Nat.pow 2 excess), e + excess⟩

/-- The number nearest to `a / b`. -/
def ofRatio (a b : Nat) : Extended :=
  -- The quotient has 65 bits or more, and one more bit for the remainder.
  let more := b.log2 + precision + 2 - a.log2
  let scaled := a * Nat.pow 2 more
  let sticky := if scaled % b = 0 then 0 else 1
  round (2 * (scaled / b) + sticky) (-(more : Int) - 1)

/-- The nearest number to a product. -/
def mul (x y : Extended) : Extended :=
  round (x.significand * y.significand) (x.exponent + y.exponent)

/-- The power of ten with an exponent. -/
def powerOfTen (e : Int) : Extended :=
  if e < 0 then ofRatio 1 (Nat.pow 10 e.natAbs) else ofRatio (Nat.pow 10 e.natAbs) 1

/-- The number of times that a power of ten holds each step, the greatest step first. -/
def steps (n : Nat) : List (Nat × Nat) := [(100, n / 100), (10, n % 100 / 10), (1, n % 10)]

/-- A number times `10 ^ e`, rounded after every step. -/
def scale (x : Extended) (e : Int) : Extended :=
  (steps e.natAbs).foldl (fun x (size, times) =>
    let factor := powerOfTen (if e < 0 then -(size : Int) else size)
    Nat.repeat (·.mul factor) times x) x

/-- Numerator and denominator. -/
def ratio (x : Extended) : Nat × Nat :=
  if x.exponent < 0 then (x.significand, Nat.pow 2 x.exponent.natAbs)
  else (x.significand * Nat.pow 2 x.exponent.natAbs, 1)

/-- The nearest number of 64 bits in all with a sign; none beyond the largest one. -/
def toBinary64? (negative : Bool) (x : Extended) : Option Binary64 :=
  let magnitude := (x.significand.log2 : Int) + x.exponent
  if magnitude < -1100 then some (.zero negative)
  else if 1024 ≤ magnitude then none
  else
    let (a, b) := x.ratio
    if b * ((Nat.pow 2 53 - 1) * Nat.pow 2 971) < a then none else Binary64.ofRatio? negative a b

example : ofRatio 1 10 = ⟨0xcccccccccccccccd, -67⟩ := by decide +kernel
example : (scale ⟨15, 0⟩ (-1)).toBinary64? false = Binary64.ofScientific? false 15 (-1) := by
  decide +kernel
example : (scale ⟨1, 0⟩ 400).toBinary64? false = none := by decide +kernel
example : (scale ⟨1, 0⟩ (-400)).toBinary64? true = some (.zero true) := by decide +kernel

end Extended

end LeaseQueue
