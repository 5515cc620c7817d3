import EventLog.Config.Basic
import EventLog.Config.Document

/-!
# Writing configurations as documents

The written form of a configuration is a map that leaves out nothing but an absent pattern.
-/

namespace EventLog.Config

private def patternField : Option String → List (String × Document)
  | none => []
  | some pattern => [("pattern", .str pattern)]

/-- The written form of an appender. -/
def AppenderConfig.encode (a : AppenderConfig) : Document :=
  let target := match a.target with
    | .console => [("type", Document.str "stdout")]
    | .file path => [("type", .str "file"), ("path", .str path)]
  Document.ofFields (target ++ [("level", .str a.level.name)] ++ patternField a.pattern)

/-- The written form of a logger. -/
def LoggerConfig.encode (c : LoggerConfig) : Document :=
  Document.ofFields
    ([("name", .str c.name), ("level", .str c.level.name)] ++ patternField c.pattern
      ++ [("appenders", .seq (c.appenders.map AppenderConfig.encode))])

end EventLog.Config
