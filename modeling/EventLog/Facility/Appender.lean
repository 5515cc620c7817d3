import EventLog.Layout.Basic
import EventLog.Output.Console
import EventLog.Output.FileSink

/-!
# Loggers and appenders

A logger is a gate in front of appenders, with a layout for those that come without one. An appender
is a sink with a level gate of its own and, once it has one, a layout. The built-in sinks keep
rendered events in memory, write them to the console or write them to a file. An observer is a sink
supplied by the program around the library: it counts its calls, keeps what it renders, and may use
the logger that called it.
-/

namespace EventLog

/-- A compiled layout together with the stamp of its compilation. Holders with equal stamps share
one object. -/
structure SharedLayout where
  stamp : Nat
  layout : Layout
  deriving DecidableEq, Inhabited

/-- What an observer does besides keeping the rendered event. -/
inductive Reaction where
  | keep
  /-- Keeps the event in upper case. -/
  | upperCase
  /-- First logs a marked copy of each unmarked event. -/
  | echo
  /-- Then detaches all appenders of the logger. -/
  | clear
  /-- Then raises the logger's gate to `fatal`. -/
  | raise
  deriving DecidableEq

/-- An appender supplied by the program around the library. -/
structure Observer where
  reaction : Reaction
  calls : Nat := 0
  flushes : Nat := 0
  /-- Why flushing fails, if it does. -/
  flushFailure : Option String := none
  lines : List String := []

/-- Where the rendered events of an appender go. -/
inductive Sink where
  | memory (lines : List String)
  | console (sink : Output.ConsoleSink)
  | file (sink : Output.FileSink Output.Handle)
  | observer (observer : Observer)

/-- The kind of a sink, as descriptions and errors name it. -/
def Sink.name : Sink → String
  | memory _ => "buffer"
  | console _ => "stdout"
  | file _ => "file"
  | observer _ => "custom"

/-- The rendered events that a sink keeps. -/
def Sink.lines : Sink → List String
  | memory lines => lines
  | observer o => o.lines
  | _ => []

/-- A named gate in front of an ordered list of appenders. -/
structure Logger where
  name : String
  level : Level := .debug
  layout : SharedLayout
  appenders : List AppenderId := []
  deriving Inhabited

/-- The gate and the layout of an appender. -/
structure AppenderState where
  level : Level := .debug
  layout : Option SharedLayout := none

/-- The text of an event for an appender, unless the level is below its gate: by its own layout, or
by the logger's if it has none, with the name of the logger that was called and the level that was
passed. -/
def AppenderState.render (state : AppenderState) (east : Int) (logger : Logger) (level : Level)
    (event : Event) : Option String :=
  if level < state.level then none
  else
    some ((state.layout.getD logger.layout).layout.render
      { east, logger := logger.name, level, event })

/-- A sink with a gate and a layout. -/
structure Appender extends AppenderState where
  sink : Sink

instance : Inhabited Appender := ⟨{ sink := .memory [] }⟩

end EventLog
