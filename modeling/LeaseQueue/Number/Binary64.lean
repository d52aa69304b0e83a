/-
Finite binary floating-point numbers of 64 bits, with exact rounding.

* `Binary64`: sign, significand and power of two of a finite number;
* `Binary64.ofRatio?`: the nearest number to a quotient, a half goes to the even significand, and
  no number when the quotient is too large;
* `Binary64.ofScientific?`: the nearest number to `m · 10 ^ e`;
* `Binary64.mul?`, `Binary64.div?`: one rounding after the exact result;
* `Binary64.truncate`: the whole part, toward zero.

All arithmetic is on natural numbers, so every value here can be computed in a proof.
-/

namespace LeaseQueue

/-- The finite number `± significand · 2 ^ exponent`. -/
structure Binary64 where
  negative : Bool
  significand : Nat
  exponent : Int
deriving DecidableEq, Repr

namespace Binary64

/-- The least exponent, used by zero and by numbers too small for a full significand. -/
def minExponent : Int := -1074

/-- The largest exponent of a finite number. -/
def maxExponent : Int := 971

/-- Zero, which carries a sign. -/
def zero (negative : Bool) : Binary64 := ⟨negative, 0, minExponent⟩

/-- Whether the number is one of the two zeros. -/
def isZero (x : Binary64) : Bool := x.significand == 0

/-- The quotient `a / b` rounded to the nearest whole number, a half to the even one. -/
def divNearestEven (a b : Nat) : Nat :=
  let q := a / b
  let twice := 2 * (a % b)
  if twice < b then q
  else if b < twice then q + 1
  else if q % 2 = 0 then q else q + 1

/-- The quotient `a / (b · 2 ^ e)` rounded to the nearest whole number. -/
private def scaled (a b : Nat) (e : Int) : Nat :=
  if e < 0 then divNearestEven (a * Nat.pow 2 e.natAbs) b
  else divNearestEven a (b * Nat.pow 2 e.natAbs)

/-- Whether `a / (b · 2 ^ e)` is below `2 ^ 52`. -/
private def tooFewBits (a b : Nat) (e : Int) : Bool :=
  if e < 0 then a * Nat.pow 2 e.natAbs < b * Nat.pow 2 52
  else a < b * Nat.pow 2 e.natAbs * Nat.pow 2 52

/-- The number nearest to `± a / b`, or none beyond the largest finite number. -/
def ofRatio? (negative : Bool) (a b : Nat) : Option Binary64 :=
  if a = 0 ∨ b = 0 then some (zero negative)
  else
    let guess : Int := (a.log2 : Int) - b.log2 - 52
    let fit := if tooFewBits a b guess then guess - 1 else guess
    let e := max fit minExponent
    let s := scaled a b e
    let (s, e) := if s = Nat.pow 2 53 then (Nat.pow 2 52, e + 1) else (s, e)
    if maxExponent < e then none
    else if s = 0 then some (zero negative)
    else some ⟨negative, s, e⟩

/-- The number nearest to `± m · 10 ^ e`. -/
def ofScientific? (negative : Bool) (m : Nat) (e : Int) : Option Binary64 :=
  if m = 0 then some (zero negative)
  else
    let magnitude : Int := (Nat.toDigits 10 m).length + e
    if 311 < magnitude then none
    else if magnitude < -330 then some (zero negative)
    else if e < 0 then ofRatio? negative m (Nat.pow 10 e.natAbs)
    else ofRatio? negative (m * Nat.pow 10 e.natAbs) 1

/-- The number nearest to `± n`. -/
def ofNat? (negative : Bool) (n : Nat) : Option Binary64 := ofRatio? negative n 1

/-- Numerator and denominator of the absolute value. -/
def ratio (x : Binary64) : Nat × Nat :=
  if x.exponent < 0 then (x.significand, Nat.pow 2 x.exponent.natAbs)
  else (x.significand * Nat.pow 2 x.exponent.natAbs, 1)

/-- The product, rounded once. -/
def mul? (x y : Binary64) : Option Binary64 :=
  let (a, b) := x.ratio
  let (c, d) := y.ratio
  ofRatio? (x.negative != y.negative) (a * c) (b * d)

/-- The quotient by a number other than zero, rounded once. -/
def div? (x y : Binary64) : Option Binary64 :=
  let (a, b) := x.ratio
  let (c, d) := y.ratio
  ofRatio? (x.negative != y.negative) (a * d) (b * c)

/-- The whole part, rounded toward zero. -/
def truncate (x : Binary64) : Int :=
  let (a, b) := x.ratio
  if x.negative then -((a / b : Nat) : Int) else ((a / b : Nat) : Int)

/-- Whether the number is whole. -/
def isWhole (x : Binary64) : Bool :=
  let (a, b) := x.ratio
  a % b == 0

example : ofScientific? false 1 (-1) = some ⟨false, 0x1999999999999a, -56⟩ := by decide +kernel
example : ofScientific? false 5 (-324) = some ⟨false, 1, -1074⟩ := by decide +kernel
example : ofScientific? false 2 (-324) = some (zero false) := by decide +kernel
example : ofScientific? true 17976931348623157 292 = some ⟨true, 2 ^ 53 - 1, 971⟩ := by
  decide +kernel
example : ofScientific? false 17976931348623159 292 = none := by decide +kernel

end Binary64

end LeaseQueue
