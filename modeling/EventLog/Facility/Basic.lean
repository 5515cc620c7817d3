import EventLog.Facility.Appender

/-!
# Loggers, appenders and their surroundings

A `Facility` holds every logger and every appender with what they write to: the console, the disk
and the error stream. The operations here set loggers and appenders up and change them; how an event
travels through them is in `EventLog.Facility.Log`.

A logger hands its layout to an appender that is attached without one. An appender never gives its
layout back: changing the logger's layout later leaves attached appenders as they are.
-/

namespace EventLog

/-- All loggers and appenders, and what surrounds them. -/
structure Facility where
  /-- Seconds that local clocks are ahead of Greenwich. -/
  east : Int := 0
  loggers : Store Logger := {}
  appenders : Store Appender := {}
  /-- The stamp of the next compilation. -/
  nextStamp : Nat := 0
  /-- Whether appenders that paint do so. -/
  coloring : Bool := false
  console : Output.Console := {}
  disk : Output.Disk := .empty
  diagnostics : List Diagnostic := []

namespace Facility

/-! ## Reading and changing one object -/

/-- The state of a logger. -/
def logger (s : Facility) (l : LoggerId) : Logger := s.loggers.get l.index

/-- The state of an appender. -/
def appender (s : Facility) (a : AppenderId) : Appender := s.appenders.get a.index

/-- Changes one logger. -/
def modifyLogger (l : LoggerId) (change : Logger → Logger) (s : Facility) : Facility :=
  { s with loggers := s.loggers.modify l.index change }

/-- Changes one appender. -/
def modifyAppender (a : AppenderId) (change : Appender → Appender) (s : Facility) : Facility :=
  { s with appenders := s.appenders.modify a.index change }

/-- Tells a diagnostic, if there is one, on the error stream. -/
def tell (diagnostic : Option Diagnostic) (s : Facility) : Facility :=
  { s with diagnostics := s.diagnostics ++ diagnostic.toList }

/-! ## Layouts -/

/-- Compiles a pattern into a layout that shares with no other. A faulty pattern is told. -/
def compile [Calendar] (pattern : String) (s : Facility) : SharedLayout × Facility :=
  let layout := Layout.compile pattern
  ({ stamp := s.nextStamp, layout },
   { s.tell (if layout.hasError then some (.faultyPattern pattern) else none) with
     nextStamp := s.nextStamp + 1 })

/-- Compiles a pattern and refuses it with an error when it is faulty. -/
def compileStrict [Calendar] (error : Error) (pattern : String) (s : Facility) :
    Except Error SharedLayout × Facility :=
  let (shared, s) := s.compile pattern
  (if shared.layout.hasError then .error error else .ok shared, s)

/-! ## Loggers -/

/-- A new logger without appenders, at `debug`, with a default layout of its own. -/
def newLogger [Calendar] (name : String) (s : Facility) : LoggerId × Facility :=
  let (layout, s) := s.compile Layout.defaultPattern
  (⟨s.loggers.size⟩, { s with loggers := s.loggers.push { name, layout } })

/-- Sets the gate of a logger. -/
def setLevel (l : LoggerId) (level : Level) (s : Facility) : Facility :=
  s.modifyLogger l ({ · with level })

/-- Sets the layout that a logger hands to appenders attached without one. -/
def setLayout (l : LoggerId) (layout : SharedLayout) (s : Facility) : Facility :=
  s.modifyLogger l ({ · with layout })

/-- Compiles a pattern for a logger. A faulty pattern is refused and changes nothing. -/
def setPattern [Calendar] (l : LoggerId) (pattern : String) (s : Facility) :
    Except Error Unit × Facility :=
  match s.compileStrict (.faultyPattern pattern) pattern with
  | (.ok layout, s) => (.ok (), s.setLayout l layout)
  | (.error error, s) => (.error error, s)

/-- Gives an appender that has no layout the one of a logger. -/
def inherit (l : LoggerId) (a : AppenderId) (s : Facility) : Facility :=
  if (s.appender a).layout.isNone then
    s.modifyAppender a ({ · with layout := some (s.logger l).layout })
  else s

/-- Attaches an appender at the end of the list. -/
def addAppender (l : LoggerId) (a : AppenderId) (s : Facility) : Facility :=
  (s.inherit l a).modifyLogger l fun logger =>
    { logger with appenders := logger.appenders ++ [a] }

/-- Detaches the first occurrence of an appender. -/
def delAppender (l : LoggerId) (a : AppenderId) (s : Facility) : Facility :=
  s.modifyLogger l fun logger => { logger with appenders := logger.appenders.erase a }

/-- Detaches all appenders. -/
def clearAppenders (l : LoggerId) (s : Facility) : Facility :=
  s.modifyLogger l ({ · with appenders := [] })

/-! ## Appenders -/

/-- A new appender at `debug`, without a layout. -/
def newAppender (sink : Sink) (s : Facility) : AppenderId × Facility :=
  (⟨s.appenders.size⟩, { s with appenders := s.appenders.push { sink } })

/-- Sets the gate of an appender. -/
def setAppenderLevel (a : AppenderId) (level : Level) (s : Facility) : Facility :=
  s.modifyAppender a ({ · with level })

/-- Sets the layout of an appender. -/
def setAppenderLayout (a : AppenderId) (layout : SharedLayout) (s : Facility) : Facility :=
  s.modifyAppender a ({ · with layout := some layout })

/-- Compiles a pattern for an appender. A faulty pattern is told and kept. -/
def setAppenderPattern [Calendar] (a : AppenderId) (pattern : String) (s : Facility) : Facility :=
  let (layout, s) := s.compile pattern
  s.setAppenderLayout a layout

/-- Puts another sink into an appender. -/
def setSink (a : AppenderId) (sink : Sink) (s : Facility) : Facility :=
  s.modifyAppender a ({ · with sink })

/-- Opens the file of a file appender again, emptying it. Other appenders have nothing to open. -/
def reopen (a : AppenderId) (s : Facility) : Except Error Unit × Facility :=
  match (s.appender a).sink with
  | .file file =>
    let (result, file, disk) := file.reopen Output.Disk.volume s.disk
    (result, { s with disk }.setSink a (.file file))
  | _ => (.ok (), s)

/-- A new file appender. A failure to open is told and leaves the appender closed. -/
def newFileAppender (path : String) (s : Facility) : AppenderId × Facility :=
  let (a, s) := s.newAppender (.file { path })
  match s.reopen a with
  | (.ok (), s) => (a, s)
  | (.error error, s) => (a, s.tell (some (.openFailed error)))

/-- A new file appender, or the error that kept its file from being opened. -/
def openFileAppender (path : String) (s : Facility) : Except Error AppenderId × Facility :=
  let (a, s) := s.newAppender (.file { path })
  match s.reopen a with
  | (.ok (), s) => (.ok a, s)
  | (.error error, s) => (.error error, s)

/-- The events that an appender in memory keeps, which it forgets. -/
def take (a : AppenderId) (s : Facility) : List String × Facility :=
  match (s.appender a).sink with
  | .memory lines => (lines, s.setSink a (.memory []))
  | _ => ([], s)

/-- Resets the counters of an appender that has some. -/
def resetMetrics (a : AppenderId) (s : Facility) : Facility :=
  match (s.appender a).sink with
  | .console sink => s.setSink a (.console { sink with metrics := {} })
  | .file sink => s.setSink a (.file { sink with metrics := {} })
  | _ => s

private def ioResult : Option Fault → Except Error Unit
  | none => .ok ()
  | some fault => .error (.io fault)

/-- Flushes an appender. -/
def flushAppender (a : AppenderId) (s : Facility) : Except Error Unit × Facility :=
  match (s.appender a).sink with
  | .memory _ => (.ok (), s)
  | .console _ =>
    let (fault, console) := s.console.flush
    (ioResult fault, { s with console })
  | .file file =>
    let (fault, file, disk) := file.flush Output.Disk.volume s.disk
    (ioResult fault, { s with disk }.setSink a (.file file))
  | .observer o =>
    (match o.flushFailure with
      | none => .ok ()
      | some reason => .error (.writer reason),
     s.setSink a (.observer { o with flushes := o.flushes + 1 }))

/-- Flushes appenders in order, up to the first failure. -/
def flushAll : List AppenderId → Facility → Except Error Unit × Facility
  | [], s => (.ok (), s)
  | a :: rest, s =>
    match s.flushAppender a with
    | (.ok (), s) => flushAll rest s
    | (.error error, s) => (.error error, s)

/-- Flushes the appenders of a logger, up to the first failure. -/
def flush (l : LoggerId) (s : Facility) : Except Error Unit × Facility :=
  flushAll (s.logger l).appenders s

/-- A new logger whose appenders include the console. -/
def newConsoleLogger [Calendar] (name : String) (s : Facility) : LoggerId × Facility :=
  let (l, s) := s.newLogger name
  let (a, s) := s.newAppender (.console {})
  (l, s.addAppender l a)

end Facility

end EventLog
