import EventLog.Application.Thread
import EventLog.Registry
import EventLog.Facility.Log

/-!
# A running program

An application has the loggers and appenders, the registry that all its parts share, its threads and
a clock. Events are captured here, because their stamp comes from the clock and the calling thread.
An event is delivered in one of three ways, which differ only in where the gate is asked: directly,
through a wrap that is delivered when it is dropped, or by a shorthand call that asks the gate
before it makes an event at all.
-/

namespace EventLog

/-- What the clock shows: milliseconds since it started, and seconds since 1970. -/
structure Clock where
  elapse : Nat := 0
  time : Int := 0

/-- A running program. -/
structure Application where
  facility : Facility
  registry : Registry
  threads : Threads := .initial
  clock : Clock := {}

/-- A place in a source text. -/
structure Site where
  file : String
  line : Nat

/-- A failure of a thread as it is reported: the place of the report in the source text of the
library, and the message. -/
structure Failure where
  site : Site
  text : String

namespace Failure

/-- A thread could not be started. -/
def spawn (name : String) (fault : Fault) : Failure where
  site := { file := "src/core/thread.rs", line := 129 }
  text := "thread spawn failed, name=" ++ Text.quoted name ++ " error=" ++ fault.message

/-- A thread that was joined has panicked. -/
def join (name reason : String) : Failure where
  site := { file := "src/core/thread.rs", line := 153 }
  text := "thread join failed, name=" ++ name ++ " panic=" ++ reason

end Failure

/-- An event that is delivered when the wrap is dropped; none once that has happened. -/
structure Wrap where
  event : Option Event := none
  deriving Inhabited

namespace Wrap

/-- A wrap of an event. -/
def new (e : Event) : Wrap := { event := some e }

/-- Changes the event inside. -/
def change (f : Event → Event) (w : Wrap) : Wrap := { event := w.event.map f }

/-- The message of the event inside. -/
def content (w : Wrap) : String := (w.event.map (·.message)).getD ""

end Wrap

namespace Application

/-- A program whose shared registry has a root logger without appenders. -/
def initial [Calendar] (east : Int) : Application :=
  let (root, facility) := ({ east } : Facility).newLogger rootName
  { facility, registry := { root } }

/-- A program whose shared registry has a root logger that writes to the console. -/
def withConsole [Calendar] (east : Int) : Application :=
  let (registry, facility) := Registry.new { east }
  { facility, registry }

/-- The stamp of an event that a thread makes now. -/
def stamp (p : Application) (t : ThreadId) : Stamp :=
  { elapse := p.clock.elapse
    thread := (p.threads.state t).number
    fiber := (p.threads.state t).fiber
    time := p.clock.time }

/-- A new event of a thread, with an empty message. -/
def capture (p : Application) (t : ThreadId) (owner : LoggerId) (level : Level) (site : Site) :
    Event :=
  { owner, level, file := site.file, line := site.line, stamp := p.stamp t }

/-- Changes the loggers and appenders. -/
def onFacility (p : Application) (change : Facility → Facility) : Application :=
  { p with facility := change p.facility }

/-! ## Delivery -/

/-- Logs an event through a logger at a level. -/
def log (l : LoggerId) (level : Level) (event : Event) (p : Application) : Application :=
  p.onFacility (·.log l level event)

/-- Delivers the event of a wrap that is dropped: to its own logger at its own level. -/
def deliver (event : Event) (p : Application) : Application := p.log event.owner event.level event

/-- Drops a wrap: takes the event out, if it is still inside, and delivers it. -/
def dropWrap (w : Wrap) (p : Application) : Wrap × Application :=
  match w.event with
  | none => (w, p)
  | some event => ({}, p.deliver event)

/-- The shorthand call: makes, formats and delivers an event if the gate lets the level pass. -/
def shorthand (t : ThreadId) (l : LoggerId) (level : Level) (site : Site) (pieces : List Piece)
    (p : Application) : Application :=
  if (p.facility.logger l).level ≤ level then
    p.deliver ((p.capture t l level site).format pieces)
  else p

/-- The stream call: makes an event whatever the gate, writes into it and delivers it. -/
def streamed (t : ThreadId) (l : LoggerId) (level : Level) (site : Site) (text : String)
    (p : Application) : Application :=
  p.deliver ((p.capture t l level site).append text)

/-! ## Threads -/

/-- The logger that failures of threads are reported through. -/
def systemLogger (p : Application) : LoggerId := p.registry.get "system"

/-- Reports a failure of a thread. -/
def report (t : ThreadId) (failure : Failure) (p : Application) : Application :=
  p.shorthand t p.systemLogger .error failure.site [.text failure.text]

/-- Starts a thread by name. A name that the operating system does not take is reported and
refused. -/
def spawn (t : ThreadId) (name : String) (p : Application) :
    Except Error ThreadHandle × Application :=
  let name := Threads.startName name
  if Threads.isValidName name then
    let (handle, threads) := p.threads.start name
    (.ok handle, { p with threads })
  else
    let fault := Fault.nulInThreadName
    (.error (.threadSpawn name fault), p.report t (.spawn name fault))

/-- Joins a thread. The first join of a thread that panicked is reported and fails; a thread that is
still running gives nothing. -/
def join (t : ThreadId) (handle : ThreadHandle) (p : Application) :
    Option (Except Error Unit × ThreadHandle × Application) :=
  if handle.joined then some (.ok (), handle, p)
  else
    let joined := { handle with joined := true }
    match (p.threads.state handle.thread).status with
    | .running => none
    | .returned => some (.ok (), joined, p)
    | .panicked panic =>
      let name := (p.threads.infoOf handle).name
      some (.error (.threadJoin name panic.reason), joined, p.report t (.join name panic.reason))

end Application

end EventLog
