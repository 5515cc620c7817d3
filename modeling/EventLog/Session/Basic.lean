import EventLog.Session.Reply

/-!
# The state of a session

A session is an application with names for its objects. The functions here look objects up and
describe them; a lookup of a name that is bound to nothing ends the command.
-/

namespace EventLog

/-- An application and the names of its objects. -/
structure Session where
  app : Application
  loggers : Names LoggerId := []
  appenders : Names AppenderId := []
  layouts : Names SharedLayout := []
  registries : Names Registry := []
  events : Names Event := []
  wraps : Names Wrap := []
  metrics : Names Metrics := []
  /-- How many lines of each bound appender have been answered. -/
  answered : Names Nat := []

namespace Session

/-- A part of a command: it changes the session, and ends at a name that is bound to nothing. -/
abbrev Step := StateT Session (Except String)

/-- The thread that commands run on. -/
def caller : ThreadId := Threads.main

/-- The place from which commands log that do not tell one. -/
def callSite : Site := { file := "main.rs", line := 1 }

/-- The object under a name. -/
def resolve {α : Type} (table : Session → Names α) (name : String) : Step α := do
  match (table (← get)).find? name with
  | some value => return value
  | none => throw name

/-- Runs an operation on the loggers and appenders. -/
def onFacility {α : Type} (operation : Facility → α × Facility) : Step α :=
  modifyGet fun s =>
    let (result, facility) := operation s.app.facility
    (result, { s with app := { s.app with facility } })

/-- Changes the loggers and appenders. -/
def changeFacility (change : Facility → Facility) : Step Unit :=
  onFacility fun facility => ((), change facility)

/-- Changes the application. -/
def changeApp (change : Application → Application) : Step Unit :=
  modify fun s => { s with app := change s.app }

/-- Runs an operation on the disk. -/
def onDisk {α : Type} (operation : Output.Disk → α × Output.Disk) : Step α :=
  onFacility fun facility =>
    let (result, disk) := operation facility.disk
    (result, { facility with disk })

/-- Binds a logger to a name. -/
def bindLogger (name : String) (l : LoggerId) : Step Unit :=
  modify fun s => { s with loggers := s.loggers.insert name l }

/-- Binds a logger to a name if there are both. -/
def bindLogger? : Option String → Option LoggerId → Step Unit
  | some name, some l => bindLogger name l
  | _, _ => return ()

/-- A registry: the one under a name, or the one that the application shares. -/
def resolveRegistry : Option String → Step Registry
  | none => return (← get).app.registry
  | some name => resolve Session.registries name

/-- Puts a registry back. -/
def putRegistry (name : Option String) (r : Registry) : Step Unit :=
  modify fun s =>
    match name with
    | none => { s with app := { s.app with registry := r } }
    | some name => { s with registries := s.registries.insert name r }

/-! ## Views -/

/-- The first name that is bound to a value. -/
def boundName? {α : Type} [DecidableEq α] (table : Names α) (value : α) : Option String :=
  (List.find? (fun (_, other) => decide (other = value)) table).map (·.1)

/-- How a logger is referred to. -/
def loggerRef (s : Session) (l : LoggerId) : LoggerRef :=
  { bound := boundName? s.loggers l, name := (s.app.facility.logger l).name }

/-- How a logger is shown. -/
def loggerView (s : Session) (l : LoggerId) : LoggerView :=
  let logger := s.app.facility.logger l
  { name := logger.name
    level := logger.level
    pattern := logger.layout.layout.pattern
    appenders := logger.appenders.map fun a =>
      let appender := s.app.facility.appender a
      { bound := boundName? s.appenders a
        name := appender.sink.name
        level := appender.level
        pattern := appender.layout.map (·.layout.pattern)
        shared := appender.layout.any (·.stamp == logger.layout.stamp) } }

/-- A logger in one line. -/
def loggerLine (s : Session) (l : LoggerId) : String :=
  let logger := s.app.facility.logger l
  "Logger \x7b name: " ++ Text.quoted logger.name ++ ", level: " ++ logger.level.label
    ++ ", pattern: " ++ Text.quoted logger.layout.layout.pattern ++ ", appenders: "
    ++ toString logger.appenders.length ++ " \x7d"

/-- How a sink is shown. -/
def sinkView : Sink → SinkView
  | .memory lines => .memory lines
  | .console sink => .console sink.metrics
  | .file sink => .file sink.metrics sink.isOpen sink.path
  | .observer o => .observer o.calls o.flushes

/-- How an appender is shown. -/
def appenderView (s : Session) (a : AppenderId) : AppenderView :=
  let appender := s.app.facility.appender a
  { name := appender.sink.name
    level := appender.level
    pattern := appender.layout.map (·.layout.pattern)
    sink := sinkView appender.sink }

/-- How an event is shown. -/
def eventView (s : Session) (e : Event) : EventView :=
  { logger := (s.app.facility.logger e.owner).name, event := e }

/-- An event in one line. -/
def eventLine (s : Session) (e : Event) : String :=
  "LogEvent \x7b logger: " ++ Text.quoted (s.app.facility.logger e.owner).name ++ ", level: "
    ++ e.level.label ++ ", file: " ++ Text.quoted e.file ++ ", line: " ++ toString e.line
    ++ ", elapse: " ++ toString e.stamp.elapse ++ ", thread_id: " ++ toString e.stamp.thread
    ++ ", fiber_id: " ++ toString e.stamp.fiber ++ ", time: " ++ toString e.stamp.time
    ++ ", message: " ++ Text.quoted e.message ++ " \x7d"

end Session

end EventLog
