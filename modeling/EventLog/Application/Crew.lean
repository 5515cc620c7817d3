import EventLog.Application.Basic

/-!
# Threads at work

A `Crew` is an application with the handles of the threads that were started by name. Its threads
take steps, in any order: each step is taken by a thread that has not ended. Joining a thread is no
step before that thread has ended.
-/

namespace EventLog

/-- A running program and the handles of the threads that were started by name, in that order. -/
structure Crew where
  app : Application
  handles : List ThreadHandle := []

/-- One thing that a thread does. -/
inductive Crew.Step where
  /-- Starts a thread by name. -/
  | spawn (name : String)
  /-- Starts a thread past this library. -/
  | make
  | rename (name : String)
  | setFiber (fiber : Nat)
  /-- Joins the thread of the handle at a position. -/
  | join (position : Nat)
  /-- Ends, by a panic if there is one. -/
  | finish (panic : Option Panic)

/-- How a thread has ended. -/
def ThreadStatus.ended : Option Panic → ThreadStatus
  | none => .returned
  | some panic => .panicked panic

namespace Crew

/-- The threads of a crew. -/
def threads (c : Crew) : Threads := c.app.threads

/-- Changes the threads. -/
def onThreads (change : Threads → Threads) (c : Crew) : Crew :=
  { c with app := { c.app with threads := change c.threads } }

/-- Whether a thread is there and has not ended. -/
def Runs (c : Crew) (t : ThreadId) : Prop :=
  t.index < c.threads.states.size ∧ (c.threads.state t).status = .running

instance (c : Crew) (t : ThreadId) : Decidable (c.Runs t) :=
  inferInstanceAs (Decidable (_ ∧ _))

/-- What a step of a thread leaves, if the thread can take it. -/
def perform (t : ThreadId) (step : Step) (c : Crew) : Option Crew :=
  if c.Runs t then
    match step with
    | .spawn name =>
      match c.app.spawn t name with
      | (.ok handle, app) => some { app, handles := c.handles ++ [handle] }
      | (.error _, app) => some { c with app }
    | .make => some (c.onThreads (·.make.2))
    | .rename name => some (c.onThreads (·.rename t name))
    | .setFiber fiber => some (c.onThreads (·.setFiber t fiber))
    | .join position =>
      match c.handles[position]? with
      | none => none
      | some handle =>
        (c.app.join t handle).map fun (_, handle, app) =>
          { app, handles := c.handles.set position handle }
    | .finish panic => some (c.onThreads (·.finish t (.ended panic)))
  else none

/-- What steps in order leave, if each can be taken. -/
def run (c : Crew) (steps : List (ThreadId × Step)) : Option Crew :=
  steps.foldlM (fun c (t, step) => c.perform t step) c

theorem run_concat {c c' : Crew} {steps : List (ThreadId × Step)} {t : ThreadId} {step : Step} :
    c.run (steps ++ [(t, step)]) = some c' ↔
      ∃ mid, c.run steps = some mid ∧ mid.perform t step = some c' := by
  rw [run, List.foldlM_append]
  simp only [List.foldlM_cons, List.foldlM_nil, bind_pure, Option.bind_eq_bind,
    Option.bind_eq_some_iff, run]

end Crew

end EventLog
