import EventLog.Fault

/-!
# Errors

Showing and delivering events never fail: malformed patterns show markers, and failed writes are
counted. Errors come only from setting things up and from ending them. `Diagnostic` holds what is
told on the error stream instead.
-/

namespace EventLog

/-- Why an operation of the library was refused. -/
inductive Error where
  | io (fault : Fault)
  | invalidPattern (pattern reason : String)
  | invalidConfiguration (component reason : String)
  | fileAppender (path : String) (fault : Fault)
  | threadSpawn (name : String) (fault : Fault)
  | threadJoin (name reason : String)
  | writer (reason : String)
  deriving DecidableEq

namespace Error

/-- The error as one line. -/
def message : Error → String
  | io fault => "IO error: " ++ fault.message
  | invalidPattern pattern reason => "Invalid log pattern '" ++ pattern ++ "': " ++ reason
  | invalidConfiguration component reason =>
    "Invalid configuration for " ++ component ++ ": " ++ reason
  | fileAppender path fault => "File appender error for '" ++ path ++ "': " ++ fault.message
  | threadSpawn name fault => "Failed to spawn thread '" ++ name ++ "': " ++ fault.message
  | threadJoin name reason => "Failed to join thread '" ++ name ++ "': " ++ reason
  | writer reason => "Writer error: " ++ reason

/-- The fault behind an error, if there is one. -/
def source : Error → Option Fault
  | io fault => some fault
  | fileAppender _ fault => some fault
  | threadSpawn _ fault => some fault
  | _ => none

/-- The error as a record. -/
def describe : Error → String
  | io fault => "IoError(" ++ fault.describe ++ ")"
  | invalidPattern pattern reason =>
    "InvalidPattern \x7b pattern: " ++ Text.quoted pattern ++ ", message: " ++ Text.quoted reason
      ++ " \x7d"
  | invalidConfiguration component reason =>
    "InvalidConfiguration \x7b component: " ++ Text.quoted component ++ ", message: "
      ++ Text.quoted reason ++ " \x7d"
  | fileAppender path fault =>
    "FileAppenderError \x7b path: " ++ Text.quoted path ++ ", source: " ++ fault.describe ++ " \x7d"
  | threadSpawn name fault =>
    "ThreadSpawn \x7b name: " ++ Text.quoted name ++ ", source: " ++ fault.describe ++ " \x7d"
  | threadJoin name reason =>
    "ThreadJoin \x7b name: " ++ Text.quoted name ++ ", message: " ++ Text.quoted reason ++ " \x7d"
  | writer reason => "WriterError(" ++ Text.quoted reason ++ ")"

/-- A pattern that a strict operation refuses. -/
def faultyPattern (pattern : String) : Error :=
  .invalidPattern pattern "pattern contains unknown keys or an unterminated sub-format"

/-- A pattern that a configuration may not hold. -/
def configuredPattern (component pattern : String) : Error :=
  .invalidConfiguration component ("invalid pattern '" ++ pattern ++ "'")

/-- A write to a file that is not open. -/
def fileNotOpen : Error := .writer "File writer not initialized"

end Error

/-- What the library tells on the error stream. -/
inductive Diagnostic where
  | faultyPattern (pattern : String)
  | openFailed (error : Error)
  | consoleWriteFailed (fault : Fault)
  | fileWriteFailed (path : String) (error : Error)
  deriving DecidableEq

/-- The line that tells a diagnostic. -/
def Diagnostic.line : Diagnostic → String
  | faultyPattern pattern =>
    "[LOGGER WARNING] pattern parse error: " ++ Text.quoted pattern ++ "\n"
  | openFailed error => "[LOGGER ERROR] " ++ error.message ++ "\n"
  | consoleWriteFailed fault =>
    "[LOGGER ERROR] stdout appender write failed: " ++ fault.message ++ "\n"
  | fileWriteFailed path error =>
    "[LOGGER ERROR] file appender '" ++ path ++ "' write failed: " ++ error.message ++ "\n"

end EventLog
