import EventLog.Application.Call
import EventLog.Application.Crew

/-!
# A crew among calls

Between their steps the threads of a crew call loggers, appenders and the shared registry, and the
clock goes on. An `Act` is a step or one of these calls.

A thread that cannot be started and one that has panicked are reported, by a call of the logger that
the registry has for failures at that moment. So an act comes to calls on the application: its own,
or the one of the report (`Crew.calls`).
-/

namespace EventLog

namespace Application

/-- The event by which a thread reports a failure now. -/
def failureEvent (p : Application) (t : ThreadId) (failure : Failure) : Event :=
  (p.capture t p.systemLogger .error failure.site).append failure.text

/-- The call by which a thread reports a failure now. -/
def failureCall (p : Application) (t : ThreadId) (failure : Failure) : Call :=
  .operate (.log p.systemLogger .error (p.failureEvent t failure))

end Application

/-- One thing that happens in a crew: a thread takes a step, or makes a call. -/
inductive Crew.Act where
  | step (t : ThreadId) (step : Step)
  | call (call : Call)

/-- Whether an act joins the thread of the handle at a position. -/
def Crew.Act.joins (position : Nat) : Act → Bool
  | step _ (.join other) => other == position
  | _ => false

/-- The steps among some acts. -/
def Crew.stepsOf (acts : List Act) : List (ThreadId × Step) :=
  acts.filterMap fun
    | .step t step => some (t, step)
    | .call _ => none

namespace Crew

/-- What an act leaves, if it can happen. A call leaves the threads alone; of one that says how
threads and clock have gone on, the clock counts. -/
def act (c : Crew) : Act → Option Crew
  | .step t step => c.perform t step
  | .call call => some { c with app := { c.app.perform call with threads := c.threads } }

/-- What acts in order leave, if each can happen. -/
def actAll (c : Crew) (acts : List Act) : Option Crew := acts.foldlM act c

/-- What a step gives back to the thread that takes it, unless it has to wait. -/
def reply (c : Crew) (t : ThreadId) : Step → Option (Except Error Unit)
  | .spawn name => some ((c.app.spawn t name).1.map fun _ => ())
  | .join position => do
    let handle ← c.handles[position]?
    let (result, _, _) ← c.app.join t handle
    return result
  | _ => some (.ok ())

/-- How a step is reported, if it is one that fails. -/
def failure? (c : Crew) : Step → Option Failure
  | .spawn name =>
    if Threads.isValidName (Threads.startName name) then none
    else some (.spawn (Threads.startName name) .nulInThreadName)
  | .join position => do
    let handle ← c.handles[position]?
    if handle.joined then none
    else
      match (c.threads.state handle.thread).status with
      | .panicked panic => some (.join (c.threads.infoOf handle).name panic.reason)
      | _ => none
  | _ => none

/-- The calls on the application that an act comes to. -/
def calls (c : Crew) : Act → List Call
  | .step t step => ((c.failure? step).map (c.app.failureCall t)).toList
  | .call call => [call]

/-- The calls that those of some acts come to that count. -/
def callsOf (counts : Act → Bool) (c : Crew) : List Act → List Call
  | [] => []
  | a :: rest =>
    (if counts a then c.calls a else []) ++
      match c.act a with
      | some c' => c'.callsOf counts rest
      | none => []

end Crew

end EventLog
