import EventLog.Config.Decode
import EventLog.Application.Basic

/-!
# Replies

What a session answers to a command, together with what the command put out: the lines that reached
appenders which keep them, the text on the console and the text on the error stream.
-/

namespace EventLog.Session

/-- An appender as part of a logger. -/
structure AttachedView where
  /-- The name that the appender is bound to. -/
  bound : Option String
  name : String
  level : Level
  pattern : Option String
  /-- Whether it shares the logger's current layout. -/
  shared : Bool

/-- A logger. -/
structure LoggerView where
  name : String
  level : Level
  pattern : String
  appenders : List AttachedView

/-- What an appender shows of its sink. -/
inductive SinkView where
  | memory (lines : List String)
  | console (metrics : Metrics)
  | file (metrics : Metrics) (isOpen : Bool) (path : String)
  | observer (calls flushes : Nat)

/-- An appender. -/
structure AppenderView where
  name : String
  level : Level
  pattern : Option String
  sink : SinkView

/-- A logger by the name it is bound to, if any, and its own name. -/
structure LoggerRef where
  bound : Option String
  name : String

/-- An event with the name of its owner. -/
structure EventView where
  logger : String
  event : Event

/-- A fresh event and how its stamp stands to the thread and the clock. -/
structure CaptureView where
  view : EventView
  numberIsCurrent : Bool
  elapseInRange : Bool
  timeInRange : Bool

/-- The result of one action of a thread. -/
inductive ActionResult where
  | done
  | text (text : Option String)
  | flag (value : Bool)
  | number (value : Nat)

/-- How a thread ran. -/
structure ThreadView where
  seen : List ActionResult
  join : Except Error Unit
  joinAgain : Except Error Unit
  name : String
  infoName : String
  numberIsPositive : Bool
  numberIsChilds : Bool
  infoNumberIsSame : Bool
  numberIsCallers : Bool
  description : String

/-- The result of a call of bare counters. -/
inductive CallResult where
  | none
  | count (before : UInt64)
  | first (value : Bool)

/-- The answer to a command. -/
inductive Reply where
  | ok
  | failed (error : Error)
  | rejected (error : Config.DecodeError)
  /-- A name in the command is bound to nothing. -/
  | unbound (name : String)
  | text (text : Option String)
  | texts (texts : List String)
  | flag (value : Bool)
  | number (value : Nat)
  | logger (view : LoggerView)
  | appender (view : AppenderView)
  | layout (layout : Layout)
  | reference (ref : Option LoggerRef)
  | found (ref : LoggerRef) (isRoot : Bool)
  | event (view : EventView)
  | captured (view : CaptureView)
  | thread (view : ThreadView)
  | metrics (metrics : Metrics) (last : CallResult)
  | panicked

/-- The reply of an operation that may be refused. -/
def Reply.ofResult : Except Error Unit → Reply
  | .ok () => .ok
  | .error error => .failed error

/-- The answer to a command and what it put out. -/
structure Answer where
  reply : Reply
  lines : List (String × List String)
  console : String
  errors : String

end EventLog.Session
