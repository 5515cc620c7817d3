import EventLog.Config.Basic
import EventLog.Config.Document

/-!
# Reading configurations from documents

A logger is a map or the sequence of its values in the order name, level, pattern, appenders; an
appender is a map with its kind under `type`, or a sequence that starts with the kind. What is left
out has its default. Keys without a meaning are passed over. The fields of a map are read in the
order of their keys and the first that is wrong is reported; a field that is missing is reported
when all that are there are good. The kind of an appender comes before its other fields.
-/

namespace EventLog.Config

/-- Why a document is no configuration. -/
inductive DecodeError where
  | missingField (name : String)
  | unknownVariant (found : String) (known : List String)
  | invalidType (found expected : String)
  | notOneKey
  | invalidLength (length : Nat) (expected : String)
  deriving DecidableEq

/-- The alternatives of a choice: two are joined, more are listed. -/
def alternatives (known : List String) : String :=
  let marked := known.map fun name => "`" ++ name ++ "`"
  match marked with
  | [one, two] => one ++ " or " ++ two
  | _ => "one of " ++ ", ".intercalate marked

/-- The error as one line. -/
def DecodeError.message : DecodeError → String
  | missingField name => "missing field `" ++ name ++ "`"
  | unknownVariant found known =>
    "unknown variant `" ++ found ++ "`, expected " ++ alternatives known
  | invalidType found expected => "invalid type: " ++ found ++ ", expected " ++ expected
  | notOneKey => "invalid value: map, expected map with a single key"
  | invalidLength length expected =>
    "invalid length " ++ toString length ++ ", expected " ++ expected

/-- What reading yields. -/
abbrev Decoded (α : Type) := Except DecodeError α

/-- A document that is not what was expected. -/
def mismatch {α : Type} (d : Document) (expected : String) : Decoded α :=
  .error (.invalidType d.describe expected)

/-- A text; `expected` says what it is needed for. -/
def decodeText (expected : String) : Document → Decoded String
  | .str text => .ok text
  | d => mismatch d expected

/-- A pattern that may be absent. -/
def decodePattern : Document → Decoded (Option String)
  | .null => .ok none
  | d => some <$> decodeText "a string" d

/-- A level by its exact name. -/
def decodeLevelName (name : String) : Decoded Level :=
  match Level.ofName? name with
  | some level => .ok level
  | none => .error (.unknownVariant name (Level.all.map Level.name))

/-- A level: its name, or a map from its name to nothing. With `lenient` an empty map counts as
nothing. -/
def decodeLevel (lenient : Bool) : Document → Decoded Level
  | .str name => decodeLevelName name
  | .map [(name, value)] => do
    let level ← decodeLevelName name
    match value with
    | .null => return level
    | .map [] => if lenient then return level else mismatch value "unit"
    | _ => mismatch value "unit"
  | .map _ => .error .notOneKey
  | d => mismatch d "string or map"

/-- Reads the next value of a sequence, or takes the default when there is none. -/
def decodeNext {α : Type} (decode : Document → Decoded α) (default : α) :
    List Document → Decoded (α × List Document)
  | [] => .ok (default, [])
  | d :: rest => do return (← decode d, rest)

/-! ## Appenders -/

/-- The kinds of appenders. -/
inductive Kind where
  | console | file
  deriving DecidableEq

/-- The kind with a name. -/
def decodeKind : Document → Decoded Kind
  | .str "stdout" => .ok .console
  | .str "file" => .ok .file
  | .str name => .error (.unknownVariant name ["stdout", "file"])
  | d => mismatch d "variant identifier"

/-- The values of an appender read so far. -/
structure AppenderDraft where
  path : Option String := none
  level : Level := .debug
  pattern : Option String := none

/-- Reads one field of an appender. -/
def AppenderDraft.read (kind : Kind) (draft : AppenderDraft) :
    String × Document → Decoded AppenderDraft
  | ("level", d) => do return { draft with level := ← decodeLevel true d }
  | ("pattern", d) => do return { draft with pattern := ← decodePattern d }
  | ("path", d) =>
    match kind with
    | .console => .ok draft
    | .file => do return { draft with path := some (← decodeText "path string" d) }
  | _ => .ok draft

/-- The appender that the values make. -/
def AppenderDraft.finish (kind : Kind) (draft : AppenderDraft) : Decoded AppenderConfig :=
  match kind, draft.path with
  | .console, _ => .ok { target := .console, level := draft.level, pattern := draft.pattern }
  | .file, some path => .ok { target := .file path, level := draft.level, pattern := draft.pattern }
  | .file, none => .error (.missingField "path")

/-- An appender from the values after its kind. -/
def decodeAppenderValues (kind : Kind) (values : List Document) : Decoded AppenderConfig := do
  let (target, rest) ← match kind, values with
    | .console, rest => .ok (Target.console, rest)
    | .file, [] =>
      .error (.invalidLength 0 "struct variant AppenderConfig::File with 3 elements")
    | .file, d :: rest => do
      let path ← decodeText "path string" d
      .ok (Target.file path, rest)
  let (level, rest) ← decodeNext (decodeLevel true) .debug rest
  let (pattern, rest) ← decodeNext decodePattern none rest
  if rest.isEmpty then return { target, level, pattern }
  else
    let most := match kind with
      | .console => "2"
      | .file => "3"
    .error (.invalidLength values.length (most ++ " elements in sequence"))

/-- An appender. -/
def AppenderConfig.decode : Document → Decoded AppenderConfig
  | .map fields =>
    match Names.find? fields "type" with
    | none => .error (.missingField "type")
    | some tag => do
      let kind ← decodeKind tag
      let draft ← fields.foldlM (AppenderDraft.read kind) {}
      draft.finish kind
  | .seq [] => .error (.missingField "type")
  | .seq (tag :: values) => do decodeAppenderValues (← decodeKind tag) values
  | d => mismatch d "internally tagged enum AppenderConfig"

/-! ## Loggers -/

/-- A sequence, each element read by itself. -/
def decodeSequence {α : Type} (decode : Document → Decoded α) : Document → Decoded (List α)
  | .seq elements => elements.mapM decode
  | d => mismatch d "a sequence"

/-- The values of a logger read so far. -/
structure LoggerDraft where
  name : Option String := none
  level : Level := .debug
  pattern : Option String := none
  appenders : List AppenderConfig := []

/-- Reads one field of a logger. -/
def LoggerDraft.read (draft : LoggerDraft) : String × Document → Decoded LoggerDraft
  | ("name", d) => do return { draft with name := some (← decodeText "a string" d) }
  | ("level", d) => do return { draft with level := ← decodeLevel false d }
  | ("pattern", d) => do return { draft with pattern := ← decodePattern d }
  | ("appenders", d) => do
    return { draft with appenders := ← decodeSequence AppenderConfig.decode d }
  | _ => .ok draft

/-- The logger that the values make. -/
def LoggerDraft.finish (draft : LoggerDraft) : Decoded LoggerConfig :=
  match draft.name with
  | some name =>
    .ok { name, level := draft.level, pattern := draft.pattern, appenders := draft.appenders }
  | none => .error (.missingField "name")

/-- A logger from its values in order. -/
def decodeLoggerValues (values : List Document) : Decoded LoggerConfig :=
  match values with
  | [] => .error (.invalidLength 0 "struct LoggerConfig with 4 elements")
  | first :: rest => do
    let name ← decodeText "a string" first
    let (level, rest) ← decodeNext (decodeLevel false) .debug rest
    let (pattern, rest) ← decodeNext decodePattern none rest
    let (appenders, rest) ← decodeNext (decodeSequence AppenderConfig.decode) [] rest
    if rest.isEmpty then return { name, level, pattern, appenders }
    else .error (.invalidLength values.length "fewer elements in array")

/-- A logger with its appenders. -/
def LoggerConfig.decode : Document → Decoded LoggerConfig
  | .map fields => do
    let draft ← fields.foldlM LoggerDraft.read {}
    draft.finish
  | .seq values => decodeLoggerValues values
  | d => mismatch d "struct LoggerConfig"

end EventLog.Config
