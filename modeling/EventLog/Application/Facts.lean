import EventLog.Application.Basic

/-!
# What stamps tell

Facts about the stamps of an application: the clock does not run back, each thread has a number of
its own that stays, and a new thread starts with fiber 0.
-/

namespace EventLog

/-- What two stamps of one thread and one of a new thread tell. -/
structure StampFacts where
  elapseIsMonotonic : Bool
  otherFiber : Nat
  numberDiffers : Bool
  numberIsPositive : Bool
  numberIsStable : Bool
  timeIsMonotonic : Bool

/-- Compares stamps of a thread with each other and with that of a thread it starts. -/
def Application.stampFacts (p : Application) (t : ThreadId) : StampFacts :=
  let here := p.stamp t
  let again := p.stamp t
  let (handle, threads) := p.threads.start unknownThreadName
  let other := { p with threads }.stamp handle.thread
  { elapseIsMonotonic := here.elapse ≤ again.elapse
    otherFiber := other.fiber
    numberDiffers := other.thread != here.thread
    numberIsPositive := 0 < here.thread
    numberIsStable := here.thread == again.thread
    timeIsMonotonic := here.time ≤ again.time }

end EventLog
