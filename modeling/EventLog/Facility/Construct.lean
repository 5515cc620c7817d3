import EventLog.Facility.Build

/-!
# Loggers made by hand

A program that has no configuration makes appenders itself and hands them to a builder, call by
call. What the calls come to is a `Plan`: the level and the pattern that were set last, and where
the appenders come from, in order.

Two loggers that were made in different ways never share objects. What they have in common is how
they look (`Facility.appearance`): everything about a logger and its appenders but which objects
they hold, and of that, whether an appender holds the very layout of the logger.
-/

namespace EventLog

/-! ## Calls of a builder -/

/-- Where an appender for a builder comes from: it was made before, or it is made for the call, as a
configuration of it says. -/
inductive Source where
  | held (a : AppenderId)
  | new (config : Config.AppenderConfig)

/-- One call of a builder. -/
inductive BuilderCall where
  | minLevel (level : Level)
  | pattern (pattern : String)
  | appender (source : Source)

namespace BuilderCall

/-- The level that a call sets. -/
def level? : BuilderCall → Option Level
  | minLevel level => some level
  | _ => none

/-- The pattern that a call sets. -/
def pattern? : BuilderCall → Option String
  | pattern p => some p
  | _ => none

/-- The source of the appender that a call adds. -/
def source? : BuilderCall → Option Source
  | appender source => some source
  | _ => none

end BuilderCall

/-- The settings of a logger to be made, and where its appenders come from. -/
structure Plan where
  level : Level
  pattern : Option String
  sources : List Source

/-- What some calls of a builder come to. -/
def BuilderCall.plan (calls : List BuilderCall) : Plan where
  level := (calls.filterMap level?).getLast?.getD .debug
  pattern := (calls.filterMap pattern?).getLast?
  sources := calls.filterMap source?

/-- The builder that a plan describes, once its appenders are there. -/
def Plan.builder (plan : Plan) (name : String) (appenders : List AppenderId) : LoggerBuilder where
  name := name
  level := plan.level
  pattern := plan.pattern
  appenders := appenders

/-- What a configuration asks for. -/
def Config.LoggerConfig.plan (config : LoggerConfig) : Plan where
  level := config.level
  pattern := config.pattern
  sources := config.appenders.map .new

/-- The calls that say what a configuration says. -/
def Config.LoggerConfig.calls (config : LoggerConfig) : List BuilderCall :=
  .minLevel config.level :: config.pattern.toList.map .pattern ++
    config.appenders.map fun c => .appender (.new c)

namespace Facility

/-- Makes an appender by hand and sets its gate and, if it is to have one, its pattern. A faulty
pattern is told and kept. -/
def makeAppender (config : Config.AppenderConfig) (s : Facility) :
    Except Error AppenderId × Facility :=
  match s.makeTarget config.target with
  | (.error error, s) => (.error error, s)
  | (.ok a, s) =>
    let s := s.setAppenderLevel a config.level
    match config.pattern with
    | none => (.ok a, s)
    | some pattern => (.ok a, s.setAppenderPattern a pattern)

/-- Gets the appender of a source. -/
def procure (source : Source) (s : Facility) : Except Error AppenderId × Facility :=
  match source with
  | .held a => (.ok a, s)
  | .new config => s.makeAppender config

/-- Makes the calls of a builder in order, up to an appender that cannot be made. -/
def chain : List BuilderCall → LoggerBuilder → Facility → Except Error LoggerBuilder × Facility
  | [], b, s => (.ok b, s)
  | .minLevel level :: rest, b, s => chain rest (b.minLevel level) s
  | .pattern p :: rest, b, s => chain rest (b.withPattern p) s
  | .appender source :: rest, b, s =>
    match s.procure source with
    | (.ok a, s) => chain rest (b.withAppender a) s
    | (.error error, s) => (.error error, s)

/-- Gets the appenders of sources in order, up to one that cannot be made. -/
def procureAll : List Source → Facility → Except Error (List AppenderId) × Facility
  | [], s => (.ok [], s)
  | source :: rest, s =>
    match s.procure source with
    | (.error error, s) => (.error error, s)
    | (.ok a, s) =>
      match procureAll rest s with
      | (.error error, s) => (.error error, s)
      | (.ok appenders, s) => (.ok (a :: appenders), s)

/-- Makes a logger by hand. -/
def construct (name : String) (calls : List BuilderCall) (s : Facility) :
    Except Error LoggerId × Facility :=
  match s.chain calls { name } with
  | (.ok b, s) => (.ok (s.build b).1, (s.build b).2)
  | (.error error, s) => (.error error, s)

end Facility

/-! ## How a logger looks -/

/-- How an appender looks beside a logger. -/
structure AppenderAppearance where
  sink : Sink
  level : Level
  layout : Option Layout
  /-- Whether the layout is the very one of the logger. -/
  sharesLayout : Bool

/-- How a logger looks with its appenders. -/
structure Appearance where
  name : String
  level : Level
  layout : Layout
  appenders : List AppenderAppearance

/-- How an appender looks beside a logger with some layout. -/
def Appender.appearance (shared : SharedLayout) (a : Appender) : AppenderAppearance where
  sink := a.sink
  level := a.level
  layout := a.layout.map (·.layout)
  sharesLayout := a.layout.any (·.stamp == shared.stamp)

namespace Facility

/-- How a logger looks. -/
def appearance (s : Facility) (l : LoggerId) : Appearance where
  name := (s.logger l).name
  level := (s.logger l).level
  layout := (s.logger l).layout.layout
  appenders := (s.logger l).appenders.map fun a => (s.appender a).appearance (s.logger l).layout

/-- Everything around loggers and appenders. -/
def surroundings (s : Facility) : Facility :=
  { s with loggers := {}, appenders := {}, nextStamp := 0 }

end Facility

end EventLog
