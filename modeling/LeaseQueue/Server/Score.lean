/-
Scores as a server writes them.

* `Score.text`, `Score.ofText?`: a score as text, and the score that a text stands for.

A server keeps scores as floating-point numbers and may write them as such. What is read is cut to
its whole part, and to the nearest number of 64 bits when it has more.
-/
import LeaseQueue.Number.Decimal
import LeaseQueue.Number.Scientific

namespace LeaseQueue.Score

/-- A score as text. -/
def text (score : Int64) : String := Decimal.text score.toInt

/-- The nearest number of 64 bits. -/
def saturate (n : Int) : Int64 :=
  Int64.ofInt (max Int64.minValue.toInt (min Int64.maxValue.toInt n))

/-- The score at the end of the range on the side of a sign. -/
def extreme (negative : Bool) : Int64 := if negative then Int64.minValue else Int64.maxValue

/-- The score of a floating-point number; infinity is cut to the range, and no number is zero. -/
def ofFloat? (negative : Bool) (cs : List Char) : Option Int64 :=
  let word := (String.ofList cs).toLower
  if word ∈ ["inf", "infinity"] then some (extreme negative)
  else if word = "nan" then some 0
  else
    (Scientific.read? cs).map fun (m, e) =>
      match Binary64.ofScientific? negative m e with
      | some x => saturate x.truncate
      | none => extreme negative

/-- The score that a text stands for: a whole number, or a floating-point number cut to one. -/
def ofText? (s : String) : Option Int64 :=
  match Decimal.int64? s with
  | some n => some n
  | none =>
    match s.toList with
    | '-' :: cs => ofFloat? true cs
    | '+' :: cs => ofFloat? false cs
    | cs => ofFloat? false cs

theorem ofText?_text (score : Int64) : ofText? (text score) = some score := by
  rw [ofText?, text, Decimal.int64?_text]

example : ofText? "1712345678901" = some 1712345678901 := by decide +kernel
example : ofText? "1.5e3" = some 1500 := by decide +kernel
example : ofText? "-0.9" = some 0 := by decide +kernel
example : ofText? "1e300" = some Int64.maxValue := by decide +kernel
example : ofText? "nan?" = none := by decide +kernel

end LeaseQueue.Score
