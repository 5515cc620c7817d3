import EventLog.Application.Basic
import EventLog.Facility.Operation

/-!
# Calls of a program and their runs

A `Call` is one thing that a program does with loggers, appenders and the shared registry, or a change
of the threads and the clock around it. `Application.run` makes calls in order, and
`Application.history` pairs each with the application that it meets.
-/

namespace EventLog

/-- A call on loggers, appenders or the registry, or a change of threads and clock. -/
inductive Call where
  | operate (operation : Operation)
  | build (builder : LoggerBuilder)
  | configure (config : Config.LoggerConfig)
  -- The shared registry.
  | register (l : LoggerId)
  | unregister (name : String)
  | apply (configs : List Config.LoggerConfig)
  /-- The threads and the clock become what running has made of them. -/
  | elapse (threads : Threads) (clock : Clock)

namespace Application

/-- What a call leaves. -/
def perform [Calendar] (p : Application) : Call → Application
  | .operate operation => p.onFacility (·.perform operation)
  | .build builder => p.onFacility fun s => (s.build builder).2
  | .configure config => p.onFacility fun s => (s.buildLogger config).2
  | .register l => { p with registry := (p.registry.add l p.facility).2 }
  | .unregister name => { p with registry := (p.registry.remove name).2 }
  | .apply configs =>
    let (_, facility, registry) := p.registry.apply configs p.facility
    { p with facility, registry }
  | .elapse threads clock => { p with threads, clock }

/-- The logger that a call gives back. -/
def reply (p : Application) : Call → Option LoggerId
  | .register l => (p.registry.add l p.facility).1
  | .unregister name => (p.registry.remove name).1
  | _ => none

/-- Makes calls in order. -/
def run [Calendar] (p : Application) (calls : List Call) : Application := calls.foldl perform p

/-- The calls of a run, each with the application that it meets. -/
def history [Calendar] (p : Application) : List Call → List (Application × Call)
  | [] => []
  | call :: rest => (p, call) :: (p.perform call).history rest

@[simp] theorem run_nil [Calendar] (p : Application) : p.run [] = p := rfl

@[simp] theorem run_cons [Calendar] (p : Application) (call : Call) (rest : List Call) :
    p.run (call :: rest) = (p.perform call).run rest := rfl

theorem run_append [Calendar] (p : Application) (before after : List Call) :
    p.run (before ++ after) = (p.run before).run after :=
  List.foldl_append

end Application

end EventLog
