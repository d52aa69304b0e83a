/-
The fewest decimal digits that read back as the same floating-point number.

* `Shortest.digits`: the digits and the power of ten of the shortest decimal that rounds to a
  given number; of several shortest ones the nearest, and of two equally near ones the even one;
* `Shortest.Layout`: how digits become text, where positional notation ends and how an exponent
  is written;
* `Shortest.text`: the text of a number under a layout.
-/
import LeaseQueue.Number.Binary64
import LeaseQueue.Number.Decimal

namespace LeaseQueue.Shortest

/-- The points that round to a number: the number itself and both ends, over one denominator. -/
structure Interval where
  low : Nat
  value : Nat
  high : Nat
  denominator : Nat
  /-- Whether the ends themselves round to the number. -/
  closed : Bool

/-- The interval of a number other than zero. Below a power of two the lower gap is half as wide. -/
def Interval.of (x : Binary64) : Interval :=
  let s := 4 * x.significand
  let below := if x.significand = Nat.pow 2 52 ∧ Binary64.minExponent < x.exponent then 1 else 2
  let e := x.exponent - 2
  let (up, denominator) := if e < 0 then (1, Nat.pow 2 e.natAbs) else (Nat.pow 2 e.natAbs, 1)
  { low := (s - below) * up
    value := s * up
    high := (s + 2) * up
    denominator
    closed := x.significand % 2 == 0 }

/-- Whether `c / d` rounds to the number of the interval. -/
def Interval.holds (i : Interval) (c d : Nat) : Bool :=
  let l := i.low * d
  let p := c * i.denominator
  let h := i.high * d
  if i.closed then l ≤ p && p ≤ h else l < p && p < h

/-- The power of ten of the first digit of `a / b`. -/
def leadingPower (a b : Nat) : Int :=
  if b ≤ a then ((Decimal.ofNat (a / b)).length : Int) - 1
  else -((Decimal.ofNat ((b + a - 1) / a - 1)).length : Int)

/-- The best decimal with `n` digits in the interval, if there is one. -/
def Interval.withDigits (i : Interval) (n : Nat) : Option (Nat × Int) :=
  let p := leadingPower i.value i.denominator - n + 1
  -- The grid 10 ^ p as a quotient.
  let (up, down) := if p < 0 then (1, Nat.pow 10 p.natAbs) else (Nat.pow 10 p.natAbs, 1)
  let q := i.value * down / (i.denominator * up)
  let twice := 2 * (i.value * down % (i.denominator * up))
  let first := i.holds (q * up) down
  let second := i.holds ((q + 1) * up) down
  let nearerFirst :=
    twice < i.denominator * up || (twice == i.denominator * up && q % 2 == 0)
  if first && (nearerFirst || !second) then some (q, p)
  else if second then some (if q + 1 = Nat.pow 10 n then (1, p + n) else (q + 1, p))
  else none

/-- The shortest decimal `m · 10 ^ p` that rounds to a number other than zero. -/
def digits (x : Binary64) : Nat × Int :=
  let i := Interval.of x
  ((List.range' 1 17).findSome? i.withDigits).getD (0, 0)

/-- Which powers of ten of the first digit are written positionally, from `low` to `high`. -/
structure Layout where
  low : Int
  high : Int
  /-- Written in front of an exponent that is not negative. -/
  plus : String

/-- Positional text of the digits `ds` times `10 ^ p`, always with a fraction. -/
def positional (ds : List Char) (p : Int) : List Char :=
  let point : Int := ds.length + p
  if 0 ≤ p then ds ++ List.replicate p.toNat '0' ++ ['.', '0']
  else if 0 < point then ds.take point.toNat ++ '.' :: ds.drop point.toNat
  else '0' :: '.' :: List.replicate (-point).toNat '0' ++ ds

/-- Text with one digit before the point and a power of ten after it. -/
def exponential (plus : String) (ds : List Char) (p : Int) : List Char :=
  let power : Int := ds.length + p - 1
  let mantissa := match ds with
    | [] => []
    | [d] => [d]
    | d :: rest => d :: '.' :: rest
  mantissa ++ 'e' :: (if power < 0 then [] else plus.toList) ++ Decimal.ofInt power

/-- The text of a number under a layout. -/
def text (layout : Layout) (x : Binary64) : String :=
  let sign := if x.negative then ['-'] else []
  if x.isZero then String.ofList (sign ++ "0.0".toList)
  else
    let (m, p) := digits x
    let ds := Decimal.ofNat m
    let power : Int := ds.length + p - 1
    let body :=
      if layout.low ≤ power ∧ power ≤ layout.high then positional ds p
      else exponential layout.plus ds p
    String.ofList (sign ++ body)

example : (Binary64.ofScientific? false 3 (-1)).map (text ⟨-5, 15, "+"⟩) = some "0.3" := by
  decide +kernel
example : (Binary64.ofScientific? false 5 (-324)).map (text ⟨-5, 15, "+"⟩) = some "5e-324" := by
  decide +kernel
example : (Binary64.ofScientific? false 1 16).map (text ⟨-5, 15, "+"⟩) = some "1e+16" := by
  decide +kernel
example : (Binary64.ofScientific? false 1 23).map (text ⟨-5, 15, "+"⟩) = some "1e+23" := by
  decide +kernel
example : (Binary64.ofScientific? true 1234 2).map (text ⟨-5, 15, "+"⟩) = some "-123400.0" := by
  decide +kernel

end LeaseQueue.Shortest
