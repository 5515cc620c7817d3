import EventLog.Config.Basic
import EventLog.Facility.Basic

/-!
# Making loggers

A logger is made in one of two ways. A `LoggerBuilder` collects settings and appenders and makes the
logger at the end; faulty patterns are told and kept. A configuration is built strictly: the first
faulty pattern or file that cannot be opened ends it with an error. Files are opened as their
appenders are reached, so a failure further on leaves them emptied.
-/

namespace EventLog

/-! ## Builders -/

/-- The settings of a logger to be made. -/
structure LoggerBuilder where
  name : String
  level : Level := .debug
  pattern : Option String := none
  appenders : List AppenderId := []

namespace LoggerBuilder

/-- Sets the gate. -/
def minLevel (b : LoggerBuilder) (level : Level) : LoggerBuilder := { b with level }

/-- Sets the pattern of the layout. -/
def withPattern (b : LoggerBuilder) (pattern : String) : LoggerBuilder :=
  { b with pattern := some pattern }

/-- Adds an appender at the end. -/
def withAppender (b : LoggerBuilder) (a : AppenderId) : LoggerBuilder :=
  { b with appenders := b.appenders ++ [a] }

end LoggerBuilder

namespace Facility

/-- Attaches appenders in order. -/
def addAppenders (l : LoggerId) (appenders : List AppenderId) (s : Facility) : Facility :=
  appenders.foldl (fun s a => s.addAppender l a) s

/-- Makes the logger of a builder. The appenders are attached last, so they find the layout. -/
def build [Calendar] (b : LoggerBuilder) (s : Facility) : LoggerId × Facility :=
  let (l, s) := s.newLogger b.name
  let s := s.setLevel l b.level
  let s := match b.pattern with
    | none => s
    | some pattern =>
      let (layout, s) := s.compile pattern
      s.setLayout l layout
  (l, s.addAppenders l b.appenders)

/-! ## Configurations -/

/-- Makes the appender of a configuration without its settings. -/
def makeTarget (target : Config.Target) (s : Facility) : Except Error AppenderId × Facility :=
  match target with
  | .console =>
    let (a, s) := s.newAppender (.console {})
    (.ok a, s)
  | .file path => s.openFileAppender path

/-- Gives an appender the pattern of a configuration, if it has one. -/
def configurePattern [Calendar] (a : AppenderId) (pattern : Option String) (s : Facility) :
    Except Error Unit × Facility :=
  match pattern with
  | none => (.ok (), s)
  | some pattern =>
    let component := (s.appender a).sink.name
    match s.compileStrict (.configuredPattern component pattern) pattern with
    | (.ok layout, s) => (.ok (), s.setAppenderLayout a layout)
    | (.error error, s) => (.error error, s)

/-- Makes a configured appender. -/
def buildAppender [Calendar] (config : Config.AppenderConfig) (s : Facility) :
    Except Error AppenderId × Facility :=
  match s.makeTarget config.target with
  | (.error error, s) => (.error error, s)
  | (.ok a, s) =>
    match (s.setAppenderLevel a config.level).configurePattern a config.pattern with
    | (.ok (), s) => (.ok a, s)
    | (.error error, s) => (.error error, s)

/-- Makes configured appenders in order and attaches each, up to the first failure. -/
def attachConfigured [Calendar] (l : LoggerId) :
    List Config.AppenderConfig → Facility → Except Error Unit × Facility
  | [], s => (.ok (), s)
  | config :: rest, s =>
    match s.buildAppender config with
    | (.ok a, s) => attachConfigured l rest (s.addAppender l a)
    | (.error error, s) => (.error error, s)

/-- Gives a logger the pattern of its configuration, if it has one. -/
def configureLogger [Calendar] (l : LoggerId) (config : Config.LoggerConfig) (s : Facility) :
    Except Error Unit × Facility :=
  match config.pattern with
  | none => (.ok (), s)
  | some pattern =>
    let component := "logger '" ++ config.name ++ "'"
    match s.compileStrict (.configuredPattern component pattern) pattern with
    | (.ok layout, s) => (.ok (), s.setLayout l layout)
    | (.error error, s) => (.error error, s)

/-- Makes a configured logger. -/
def buildLogger [Calendar] (config : Config.LoggerConfig) (s : Facility) :
    Except Error LoggerId × Facility :=
  let (l, s) := s.newLogger config.name
  match (s.setLevel l config.level).configureLogger l config with
  | (.error error, s) => (.error error, s)
  | (.ok (), s) =>
    match s.attachConfigured l config.appenders with
    | (.ok (), s) => (.ok l, s)
    | (.error error, s) => (.error error, s)

/-- Makes configured loggers in order, up to the first failure. -/
def buildLoggers [Calendar] :
    List Config.LoggerConfig → Facility → Except Error (List LoggerId) × Facility
  | [], s => (.ok [], s)
  | config :: rest, s =>
    match s.buildLogger config with
    | (.error error, s) => (.error error, s)
    | (.ok l, s) =>
      match buildLoggers rest s with
      | (.ok built, s) => (.ok (l :: built), s)
      | (.error error, s) => (.error error, s)

end Facility

end EventLog
