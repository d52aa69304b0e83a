/-
Counters of what a broker has done.

* `Counter`: the counters of the queue;
* `Counters`: values by name, in 64 bits;
* `Counters.exposition`: their text form for a monitoring server;
* `MetricsSink`: where a broker counts, if anywhere.
-/
import LeaseQueue.SortedMap
import LeaseQueue.Number.Shortest

namespace LeaseQueue

/-- The counters of the queue. -/
inductive Counter where
  | enqueued | dispatched | retried | failedTimeout | completed | failed
deriving DecidableEq, Repr

/-- The name of a counter. -/
def Counter.name : Counter → String
  | enqueued => "tasks_enqueued"
  | dispatched => "tasks_dispatched"
  | retried => "tasks_retried"
  | failedTimeout => "tasks_failed_timeout"
  | completed => "tasks_completed"
  | failed => "tasks_failed"

/-- Values by name. -/
abbrev Counters := SortedMap UInt64

namespace Counters

/-- The value of a counter, zero before it is first used. -/
def value (c : Counters) (name : String) : UInt64 := c.getD name 0

/-- Add to a counter. -/
def increment (c : Counters) (name : String) (amount : UInt64) : Counters :=
  c.insert name (c.value name + amount)

/-- Use a counter without adding to it. -/
def use (c : Counters) (name : String) : Counters := c.insertNew name 0

/-! ### Text form -/

/-- The name of the family of all counters. -/
def family : String := "tq_queue_events_total"

/-- A label value between quotes. -/
def escapeLabel (name : String) : String :=
  String.join (name.toList.map fun
    | '\\' => "\\\\"
    | '\n' => "\\n"
    | '"' => "\\\""
    | c => c.toString)

/-- A value as the nearest floating-point number, written in full. -/
def valueText (n : UInt64) : String :=
  match (Binary64.ofNat? false n.toNat).map Shortest.digits with
  | some (m, p) => Decimal.text (m * Nat.pow 10 p.toNat / Nat.pow 10 (-p).toNat : Nat)
  | none => Decimal.text n.toNat

/-- The line of one counter. -/
def sample (name : String) (n : UInt64) : String :=
  family ++ "\x7bevent=\"" ++ escapeLabel name ++ "\"\x7d " ++ valueText n ++ "\n"

/-- All counters in the order of their names, under the heading of their family. -/
def exposition (c : Counters) : String :=
  if c.isEmpty then ""
  else
    "# HELP " ++ family ++ " Queue events by event name\n# TYPE " ++ family ++ " counter\n"
      ++ String.join (c.entries.map fun e => sample e.1 e.2)

end Counters

/-- Where events are counted. -/
inductive MetricsSink where
  /-- Nowhere. -/
  | none
  /-- In memory. -/
  | memory (c : Counters)
  /-- For a monitoring server. -/
  | exposed (c : Counters)
deriving DecidableEq, Repr

namespace MetricsSink

/-- Add to a counter. -/
def increment (s : MetricsSink) (counter : Counter) (amount : UInt64) : MetricsSink :=
  match s with
  | none => none
  | memory c => memory (c.increment counter.name amount)
  | exposed c => exposed (c.increment counter.name amount)

end MetricsSink

end LeaseQueue
