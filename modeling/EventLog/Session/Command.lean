import EventLog.Config.Document
import EventLog.Application.Basic

/-!
# Commands

A session works on objects that it knows by name: loggers, appenders, layouts, registries, events,
wraps and counters, each kind under names of its own. The names are given by whoever writes the
commands; a name may be bound again.
-/

namespace EventLog.Session

/-- An event to be made, without its owner. -/
structure Draft where
  level : Level := .info
  file : String := "main.rs"
  line : Nat := 1
  stamp : Stamp := { elapse := 0, thread := 1, fiber := 0, time := 0 }
  message : String := ""

/-- The event of a draft for its owner. -/
def Draft.toEvent (d : Draft) (owner : LoggerId) : Event :=
  { owner
    level := d.level
    file := d.file
    line := d.line
    stamp := d.stamp
    message := d.message }

/-- How text is added to a message: as it is, or formatted from pieces. -/
inductive Addition where
  | plain (text : String)
  | formatted (pieces : List Piece)

/-- The event with the addition at the end of its message. -/
def Addition.apply (addition : Addition) (e : Event) : Event :=
  match addition with
  | plain text => e.append text
  | formatted pieces => e.format pieces

/-- The kinds of appenders that a session makes. -/
inductive AppenderKind where
  | memory
  | console (painted : Bool)
  /-- A file appender that tells when it cannot open its file. -/
  | file (path : String)
  /-- A file appender that is refused when it cannot open its file. -/
  | openFile (path : String)
  | observer (reaction : Reaction) (flushFailure : Option String)

/-- An appender given to a builder: one that is bound, or a new one for the console. -/
inductive BuilderAppender where
  | bound (name : String)
  | console (pattern : Option String)

/-- What a thread does. -/
inductive ThreadAction where
  | showName
  | showThis
  | compareNumber
  | rename (name : String)
  | showFiber
  | setFiber (fiber : Nat)
  | log (logger : String) (level : Level) (message : String)
  | logName (logger : String) (level : Level)
  | panic (panic : Panic)

/-- The calls of bare counters. -/
inductive MetricsCall where
  | written | failed | firstFailure | reset | none

/-- One thing to do. -/
inductive Command where
  -- Loggers.
  | newLogger (name loggerName : String)
  | buildLogger (name loggerName : String) (level : Option Level) (pattern : Option String)
      (appenders : List BuilderAppender)
  | buildConfig (name : String) (config : Config.Document)
  | showLogger (logger : String)
  | describeLogger (logger : String)
  | setLevel (logger : String) (level : Level)
  | setPattern (logger pattern : String)
  | setLayout (logger layout : String)
  | flushLogger (logger : String)
  | addAppender (logger appender : String)
  | delAppender (logger appender : String)
  | clearAppenders (logger : String)
  -- Logging.
  | log (logger owner : String) (level : Level) (event : Draft)
  | shorthand (logger : String) (level : Level) (message : String)
  | streamed (logger : String) (level : Level) (message : String)
  -- Layouts and appenders.
  | newLayout (name pattern : String)
  | newAppender (name : String) (kind : AppenderKind) (level : Option Level)
      (pattern : Option String)
  | showAppender (appender : String)
  | showLines (appender : String)
  | take (appender : String)
  | flushAppender (appender : String)
  | dropAppender (appender : String)
  | logTo (appender logger : String) (level : Level) (event : Draft)
  | setAppenderLevel (appender : String) (level : Level)
  | setAppenderLayout (appender layout : String)
  | reopen (appender : String)
  | tryReopen (appender : String)
  | resetMetrics (appender : String)
  | setColoring (on : Bool)
  | setConsoleFull (on : Bool)
  -- Registries. A registry without a name is the one that the application shares.
  | newRegistry (name : String)
  | lookup (registry : Option String) (loggerName : String) (bind : Option String)
  | showRoot (registry : Option String) (bind : Option String)
  | contains (registry : Option String) (loggerName : String)
  | showNames (registry : Option String)
  | register (registry : Option String) (logger : String) (bind : Option String)
  | unregister (registry : Option String) (loggerName : String) (bind : Option String)
  | applyConfigs (registry : Option String) (configs : Config.Document)
  -- Events and wraps.
  | newEvent (name logger : String) (event : Draft)
  | capture (name logger : String) (level : Level) (site : Site)
  | showEvent (event : String)
  | describeEvent (event : String)
  | writeEvent (event : String) (addition : Addition)
  | logEvent (event logger : String) (level : Level)
  | wrapEvent (name event : String)
  | wrapNew (name logger : String) (event : Draft)
  | writeWrap (wrap : String) (addition : Addition)
  | dropWrap (wrap : String)
  | unwindWrap (wrap text : String)
  -- Threads.
  | showFiber
  | setFiber (fiber : Nat)
  | showThreadName
  | renameThread (name : String)
  | showThis
  | runThread (name : String) (actions : List ThreadAction)
  -- Counters and files.
  | countMetrics (name : String) (call : MetricsCall) (times : Nat)
  | showFile (path : String)
  | writeFile (path text : String)
  | removeFile (path : String)
  | renameFile (path newPath : String)
  | makeFolder (path : String)
  | removeFolder (path : String)

end EventLog.Session
