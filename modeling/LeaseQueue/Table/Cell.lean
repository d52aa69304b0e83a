/-
Values in the cells of a table and how columns take them in.

* `Cell`: null, a whole number, another number, an infinity or a text;
* `Cell.lt`: the order of cells of any kind, null first and texts last;
* `Cell.ofNumeral?`: the number that a text writes, whole if possible;
* `Affinity.store`: what a column keeps of a value; a text column turns numbers into text, a number
  column turns texts that read as numbers into numbers.
-/
import LeaseQueue.Number.Decimal
import LeaseQueue.Number.Extended

namespace LeaseQueue

/-- The value of one cell. -/
inductive Cell where
  | null
  | integer (n : Int64)
  | real (x : Binary64)
  /-- A number beyond all others on its side. -/
  | infinite (negative : Bool)
  | text (s : String)
deriving DecidableEq, Repr

namespace Cell

/-- The name of a kind of value. -/
def kind : Cell → String
  | null => "Null"
  | integer _ => "Integer"
  | real _ | infinite _ => "Real"
  | text _ => "Text"

/-- The side on which a number lies beyond all others, zero for none, and its numerator and
denominator. -/
private def numberOf : Cell → Option (Int × Int × Nat)
  | integer n => some (0, n.toInt, 1)
  | real x =>
    let (a, b) := x.ratio
    some (0, if x.negative then -(a : Int) else a, b)
  | infinite negative => some (if negative then -1 else 1, 0, 1)
  | _ => none

/-- Null comes first, then numbers by value, then texts. -/
def lt (a b : Cell) : Bool :=
  match numberOf a, numberOf b with
  | some (side, p, q), some (side', r, s) => side < side' || (side == side' && p * s < r * q)
  | some _, none => match b with
    | text _ => true
    | _ => false
  | none, some _ => a == null
  | none, none => match a, b with
    | null, text _ => true
    | text s, text t => s < t
    | _, _ => false

example : lt (.infinite true) (.integer Int64.minValue) = true := by decide +kernel
example : lt (.infinite true) (.infinite false) = true := by decide +kernel
example : lt (.infinite false) (.infinite false) = false := by decide +kernel

/-! ### Numerals -/

/-- A text that writes a number. -/
structure Numeral where
  negative : Bool
  whole : List Char
  /-- The digits after the point. -/
  part : List Char
  /-- The power of ten behind the digits. -/
  power : Int
  /-- Whether nothing but digits is written after the sign. -/
  pure : Bool
deriving DecidableEq, Repr

/-- White space that may surround a numeral. -/
private def isCellSpace (c : Char) : Bool := c == ' ' || (9 ≤ c.toNat && c.toNat ≤ 13)

/-- The size of a power of ten. Once there are five digits, further digits make it ten thousand. -/
private def powerSize (ds : List Char) : Nat :=
  ds.foldl (fun n c => if n < 10000 then 10 * n + (c.toNat - 48) else 10000) 0

/-- A power of ten, which stands after a letter and may have a sign. -/
private def power? : List Char → Option Int
  | [] => some 0
  | mark :: rest =>
    let (negative, ds) := match rest with
      | '-' :: ds => (true, ds)
      | '+' :: ds => (false, ds)
      | ds => (false, ds)
    if (mark = 'e' ∨ mark = 'E') ∧ !ds.isEmpty ∧ ds.all Char.isDigit then
      some (if negative then -(powerSize ds : Int) else powerSize ds)
    else none

/-- The numeral that a text is, with white space around it. -/
def numeral? (s : String) : Option Numeral := do
  let cs := (s.toList.dropWhile isCellSpace).reverse.dropWhile isCellSpace |>.reverse
  let (negative, cs) := match cs with
    | '-' :: rest => (true, rest)
    | '+' :: rest => (false, rest)
    | cs => (false, cs)
  let (whole, rest) := cs.span Char.isDigit
  let (part, tail) := match rest with
    | '.' :: rest => rest.span Char.isDigit
    | rest => ([], rest)
  if whole.isEmpty && part.isEmpty then failure
  return { negative, whole, part, power := ← power? tail, pure := rest.isEmpty }

/-- From here on a significand takes in no further digit, so that it fits in 64 bits. -/
private def full : Nat := (UInt64.size - 10) / 10

/-- The leading digits of a numeral as one number, and its power of ten. Digits of the whole part
that are left out count as places. -/
private def significand (n : Numeral) : Nat × Int :=
  let value (c : Char) : Nat := c.toNat - 48
  let whole := n.whole.foldl (fun (m, e) c =>
    if m < full then (10 * m + value c, e) else (m, e + 1)) (0, n.power)
  n.part.foldl (fun (m, e) c => if m < full then (10 * m + value c, e - 1) else (m, e)) whole

/-- The same number with a power of ten nearer to zero, by one place if the significand permits. -/
private def approach (x : Nat × Int) : Nat × Int :=
  let (m, e) := x
  if 0 < e ∧ m < (UInt64.size - 1) / 10 then (10 * m, e - 1)
  else if e < 0 ∧ m % 10 = 0 then (m / 10, e + 1)
  else (m, e)

/-- The floating-point number that a numeral writes; none beyond the largest one. It is rounded
after every step of its power of ten. -/
def Numeral.value? (n : Numeral) : Option Binary64 :=
  let (m, e) := significand n
  if m = 0 then some (.zero n.negative)
  else
    let (m, e) := Nat.repeat approach 20 (m, e)
    (Extended.scale ⟨m, 0⟩ e).toBinary64? n.negative

/-- The cell of a numeral. Digits alone give a whole number of 64 bits if they can; other numerals
give one when it is whole and neither the least nor the largest. -/
def ofNumeral (n : Numeral) : Cell :=
  let m := Nat.ofDigitChars 10 n.whole 0
  let exact : Int := if n.negative then -(m : Int) else m
  if n.pure ∧ Int64.minValue.toInt ≤ exact ∧ exact ≤ Int64.maxValue.toInt then
    .integer (Int64.ofInt exact)
  else
    match n.value? with
    | none => .infinite n.negative
    | some x =>
      let whole := x.truncate
      if x.isWhole ∧ Int64.minValue.toInt < whole ∧ whole < Int64.maxValue.toInt then
        .integer (Int64.ofInt whole)
      else .real x

/-- The number that a text writes. -/
def ofNumeral? (s : String) : Option Cell := (numeral? s).map ofNumeral

example : ofNumeral? " +5 " = some (.integer 5) := by decide +kernel
example : ofNumeral? "1.5e1" = some (.integer 15) := by decide +kernel
example : ofNumeral? "-9223372036854775808" = some (.integer Int64.minValue) := by decide +kernel
example : (ofNumeral? "-9223372036854775808.0").map kind = some "Real" := by decide +kernel
example : ofNumeral? "-1e400" = some (.infinite true) := by decide +kernel
example : ofNumeral? "1e" = none := by decide +kernel

end Cell

/-- What kind of value a column prefers. -/
inductive Affinity where
  | text
  | integer
deriving DecidableEq, Repr

namespace Affinity

/-- What a column keeps of a value. -/
def store : Affinity → Cell → Cell
  | .text, .integer n => .text (Decimal.text n.toInt)
  | .integer, .text s => (Cell.ofNumeral? s).getD (.text s)
  | _, v => v

end Affinity

end LeaseQueue
