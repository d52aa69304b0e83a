/-
What happens to coming requests, one after the other.

* `Schedule`: runs of equal fates;
* `Schedule.next?`: the fate of the next request and the schedule after it;
* `Schedule.count`: how many requests have a fate.

Every finite sequence of fates is a schedule of runs of length one; a longer run of equal fates
takes no more room.
-/

namespace LeaseQueue

/-- Fates of coming requests, each with the number of requests in a row that have it. -/
abbrev Schedule (α : Type) := List (Nat × α)

namespace Schedule

variable {α : Type}

/-- The fate of the next request and the schedule after it, none when nothing is scheduled. -/
def next? : Schedule α → Option (α × Schedule α)
  | [] => none
  | (0, _) :: rest => next? rest
  | (n + 1, a) :: rest => some (a, (n, a) :: rest)

/-- How many requests have a fate. -/
def count [DecidableEq α] (a : α) : Schedule α → Nat
  | [] => 0
  | (n, b) :: rest => if b = a then n + count a rest else count a rest

/-- The fates of coming requests one by one. -/
def ofList (l : List α) : Schedule α := l.map fun a => (1, a)

example : next? [(0, true), (2, false)] = some (false, [(1, false)]) := rfl
example : next? (ofList [true, false]) = some (true, [(0, true), (1, false)]) := rfl

end Schedule

end LeaseQueue
