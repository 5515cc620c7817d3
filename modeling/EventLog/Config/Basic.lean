import EventLog.Level

/-!
# Configurations

A configuration describes one logger and its appenders as plain data. `EventLog.Config.Decode` reads
it from a document, `EventLog.Config.Encode` writes it back, and `EventLog.Facility.Build` makes the
logger.
-/

namespace EventLog.Config

/-- Where a configured appender writes to. -/
inductive Target where
  | console
  | file (path : String)
  deriving DecidableEq

/-- One appender: where it writes to, its gate, and the pattern of its own if it has one. -/
structure AppenderConfig where
  target : Target
  level : Level := .debug
  pattern : Option String := none
  deriving DecidableEq

/-- One logger and its appenders. -/
structure LoggerConfig where
  name : String
  level : Level := .debug
  pattern : Option String := none
  appenders : List AppenderConfig := []
  deriving DecidableEq

/-- Whether a configuration gives nothing but a name. -/
def LoggerConfig.isBare (c : LoggerConfig) : Bool := c = { name := c.name }

end EventLog.Config
