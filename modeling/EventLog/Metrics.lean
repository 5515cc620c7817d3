/-!
# Write counters

A sink counts the events it has written and those it has failed to write. Counters are 64 bits wide
and wrap. The first failure since the counters were reset is the one that is told.
-/

namespace EventLog

/-- The counters of one sink. -/
structure Metrics where
  written : UInt64 := 0
  failed : UInt64 := 0
  deriving DecidableEq

namespace Metrics

/-- Counts a written event. -/
def recordWritten (m : Metrics) : Metrics := { m with written := m.written + 1 }

/-- Counts a failed event; the number is the count before. -/
def recordFailed (m : Metrics) : UInt64 × Metrics := (m.failed, { m with failed := m.failed + 1 })

/-- Counts a failed event and tells whether it is the first. -/
def recordFirstFailure (m : Metrics) : Bool × Metrics :=
  let (before, counted) := m.recordFailed
  (before == 0, counted)

/-- Counting an event as written and as failed are told apart by the counters. -/
theorem recordWritten_ne_recordFailed (m : Metrics) : m.recordWritten ≠ m.recordFailed.2 := by
  intro h
  have hwritten : m.written + 1 = m.written := congrArg Metrics.written h
  have hnat := congrArg UInt64.toNat hwritten
  rw [UInt64.toNat_add] at hnat
  have hlt := m.written.toNat_lt
  have hone : (1 : UInt64).toNat = 1 := rfl
  omega

/-- The share of failed events, in percent. -/
def failureRate (m : Metrics) : Float :=
  let total := m.failed + m.written
  if total == 0 then 0.0 else m.failed.toFloat / total.toFloat * 100.0

end Metrics

end EventLog
