/-
When leases expire and how often a task is tried.

* `QueueSettings`: the visibility timeout and the number of attempts, with their usual values.
-/
import LeaseQueue.Json.Basic

namespace LeaseQueue

/-- How a broker treats leases. -/
structure QueueSettings where
  /-- How long a lease lasts without a heartbeat, in milliseconds. -/
  visibilityTimeout : Int64 := 300000
  /-- How often a task is leased before it fails. -/
  maxAttempts : UInt32 := 5
deriving DecidableEq, Repr

/-- Five minutes and five attempts. -/
def QueueSettings.standard : QueueSettings := {}

/-- The two settings as a JSON object. -/
def QueueSettings.toJson (s : QueueSettings) : Json :=
  .object
    [("visibility_timeout_ms", .whole s.visibilityTimeout.toInt),
     ("max_attempts", .whole s.maxAttempts.toNat)]

end LeaseQueue
