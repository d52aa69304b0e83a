/-
Points in time as dates.

* `Calendar.ofDay`: the date of a day counted from the start of 1970, in the calendar that is used
  for all times;
* `Timestamp.describe`: date and time of day, with milliseconds only when they are not zero; the
  number itself for years that no date is given for.
-/
import LeaseQueue.Task.Basic
import LeaseQueue.Number.Decimal

namespace LeaseQueue

/-- A date. -/
structure Calendar where
  year : Int
  /-- From one to twelve. -/
  month : Nat
  day : Nat
deriving DecidableEq, Repr

namespace Calendar

/-- The days of a month within a year that starts with March, before each of its months. -/
def daysBefore (month : Nat) : Nat := (153 * month + 2) / 5

/-- The date of a day. Eras of 400 years all have the same number of days. -/
def ofDay (n : Int) : Calendar :=
  -- Counted from the first of March of the year zero.
  let z := n + 719468
  let era := z.fdiv 146097
  let d := (z - era * 146097).toNat
  let y := (d - d / 1460 + d / 36524 - d / 146096) / 365
  let dayOfYear := d - (365 * y + y / 4 - y / 100)
  let m := (5 * dayOfYear + 2) / 153
  let month := if m < 10 then m + 3 else m - 9
  { year := y + era * 400 + (if month ≤ 2 then 1 else 0)
    month
    day := dayOfYear - daysBefore m + 1 }

example : ofDay 0 = ⟨1970, 1, 1⟩ := by decide
example : ofDay 19782 = ⟨2024, 2, 29⟩ := by decide
example : ofDay (-719528) = ⟨0, 1, 1⟩ := by decide

/-- A number of at least `n` digits. -/
def padded (n : Nat) (v : Nat) : String :=
  let ds := Decimal.text v
  String.ofList (List.replicate (n - ds.length) '0') ++ ds

/-- A year of at least four digits, with a sign outside of 0 to 9999. -/
def yearText (y : Int) : String :=
  let sign := if y < 0 then "-" else if 9999 < y then "+" else ""
  sign ++ padded 4 y.natAbs

/-- The date as a text. -/
def text (c : Calendar) : String :=
  yearText c.year ++ "-" ++ padded 2 c.month ++ "-" ++ padded 2 c.day

end Calendar

namespace Timestamp

/-- The first point in time with a date, the start of the year -262143. -/
def firstDated : Int := -8334601228800000

/-- The last point in time with a date, the end of the year 262142. -/
def lastDated : Int := 8210266876799999

/-- The time of day of a number of milliseconds. -/
def clockText (ms : Nat) : String :=
  let s := ms / 1000
  let part := ms % 1000
  Calendar.padded 2 (s / 3600) ++ ":" ++ Calendar.padded 2 (s / 60 % 60) ++ ":"
    ++ Calendar.padded 2 (s % 60) ++ (if part = 0 then "" else "." ++ Calendar.padded 3 part)

/-- Date and time of day. -/
def describe (t : Timestamp) : String :=
  let n := t.toInt
  if n < firstDated ∨ lastDated < n then Decimal.text n
  else
    let day := n.fdiv 86400000
    (Calendar.ofDay day).text ++ "T" ++ clockText (n - day * 86400000).toNat ++ "+00:00"

end Timestamp

end LeaseQueue
