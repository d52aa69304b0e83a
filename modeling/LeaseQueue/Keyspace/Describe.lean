/-
Batches in words, for diagnosis.

* `Batch.describe`: all guards and writes of a batch on one line.
-/
import LeaseQueue.Keyspace.Batch
import LeaseQueue.Text.Quote
import LeaseQueue.Number.Decimal

namespace LeaseQueue

/-- Fields by name between braces after a title. -/
def describeFields (title : String) (fields : List (String × String)) : String :=
  title ++ " \x7b " ++ ", ".intercalate (fields.map fun f => f.1 ++ ": " ++ f.2) ++ " \x7d"

/-- Items between brackets. -/
def describeItems (items : List String) : String := "[" ++ ", ".intercalate items ++ "]"

/-- A guard in words. -/
def FieldGuard.describe (g : FieldGuard) : String :=
  describeFields "FieldGuard"
    [("key", Text.quote g.key), ("field", Text.quote g.field),
     ("expected", Text.quote g.expected)]

/-- A write in words. -/
def WriteOp.describe : WriteOp → String
  | hashSet key fields =>
    describeFields "HashSet"
      [("key", Text.quote key),
       ("fields",
         describeItems (fields.map fun f =>
           "(" ++ Text.quote f.1 ++ ", " ++ Text.quote f.2 ++ ")"))]
  | scoredAdd key member score =>
    describeFields "SortedSetAdd"
      [("key", Text.quote key), ("member", Text.quote member),
       ("score", Decimal.text score.toInt)]
  | scoredRemove key member =>
    describeFields "SortedSetRemove" [("key", Text.quote key), ("member", Text.quote member)]
  | setAdd key member =>
    describeFields "SetAdd" [("key", Text.quote key), ("member", Text.quote member)]
  | setRemove key member =>
    describeFields "SetRemove" [("key", Text.quote key), ("member", Text.quote member)]

/-- A batch in words. -/
def Batch.describe (b : Batch) : String :=
  describeFields "WriteBatch"
    [("guards", describeItems (b.guards.map FieldGuard.describe)),
     ("ops", describeItems (b.ops.map WriteOp.describe))]

end LeaseQueue
