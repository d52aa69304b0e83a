/-
Sets whose members carry scores.

* `ScoredSet`: the score of each member, and the pairs of score and member in increasing order;
  both are kept by every operation;
* `ScoredSet.add`, `remove`, `popMin`: scoring a member anew moves it, and the member popped is the
  one with the least score, the least member among equal scores;
* `ScoredSet.below`: the members with a score under a bound, least first.
-/
import LeaseQueue.SortedMap

namespace LeaseQueue

/-- A set of texts with integer scores, indexed by member and by score. -/
structure ScoredSet where
  /-- The score of each member. -/
  scores : SortedMap Int64
  /-- Score and member, least first. -/
  ordered : List (Int64 × String)
deriving DecidableEq, Repr

namespace ScoredSet

/-- The order of entries: by score, then by member. -/
def precedes (a b : Int64 × String) : Bool := a.1 < b.1 || (a.1 == b.1 && a.2 < b.2)

/-- Put an entry at its place in the order. -/
def place (e : Int64 × String) : List (Int64 × String) → List (Int64 × String)
  | [] => [e]
  | a :: rest => if precedes e a then e :: a :: rest else a :: place e rest

/-- The set without members. -/
def empty : ScoredSet := ⟨.empty, []⟩

instance : Inhabited ScoredSet := ⟨empty⟩

/-- The number of members. -/
def size (s : ScoredSet) : Nat := s.ordered.length

/-- The score of a member. -/
def score? (s : ScoredSet) (member : String) : Option Int64 := s.scores.get? member

/-- Take a member out. -/
def remove (s : ScoredSet) (member : String) : ScoredSet :=
  match s.scores.get? member with
  | some old => ⟨s.scores.erase member, s.ordered.erase (old, member)⟩
  | none => s

/-- Give a member a score, whether it is in the set or not. -/
def add (s : ScoredSet) (member : String) (score : Int64) : ScoredSet :=
  let rest := match s.scores.get? member with
    | some old => s.ordered.erase (old, member)
    | none => s.ordered
  ⟨s.scores.insert member score, place (score, member) rest⟩

/-- Take out the member with the least score. -/
def popMin (s : ScoredSet) : Option ((String × Int64) × ScoredSet) :=
  match s.ordered with
  | [] => none
  | (score, member) :: rest => some ((member, score), ⟨s.scores.erase member, rest⟩)

/-- The members with a score under the bound, least first. -/
def below (s : ScoredSet) (bound : Int64) : List String :=
  (s.ordered.takeWhile fun e => e.1 < bound).map (·.2)

end ScoredSet

end LeaseQueue
