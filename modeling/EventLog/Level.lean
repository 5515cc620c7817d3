import EventLog.Text.Upper

/-!
# Severity levels

Six levels from `unknown` to `fatal`, ordered by their rank. A gate set to some level lets an event
pass when the event's level is at least the gate's. Levels are read from text in any letter case
(`Level.parse?`), with `WARNING` as a second spelling of `WARN`, or by exact name (`Level.ofName?`).
-/

namespace EventLog

/-- The terminal colours that levels are painted in. -/
inductive Color where
  | brightBlack | blue | green | yellow | red | brightRed
  deriving DecidableEq

/-- The name of a colour. -/
def Color.name : Color → String
  | .brightBlack => "BrightBlack"
  | .blue => "Blue"
  | .green => "Green"
  | .yellow => "Yellow"
  | .red => "Red"
  | .brightRed => "BrightRed"

/-- The parameter that selects a colour as foreground in a terminal escape. -/
def Color.code : Color → Nat
  | .brightBlack => 90
  | .blue => 34
  | .green => 32
  | .yellow => 33
  | .red => 31
  | .brightRed => 91

/-- How severe an event is. -/
inductive Level where
  | unknown | debug | info | warn | error | fatal
  deriving DecidableEq

namespace Level

/-- The rank of a level, from 0 to 5. -/
def rank : Level → Nat
  | .unknown => 0
  | .debug => 1
  | .info => 2
  | .warn => 3
  | .error => 4
  | .fatal => 5

/-- Loggers, appenders and configurations start at `debug`. -/
instance : Inhabited Level := ⟨.debug⟩

instance : LE Level := ⟨fun a b => a.rank ≤ b.rank⟩

instance : LT Level := ⟨fun a b => a.rank < b.rank⟩

instance (a b : Level) : Decidable (a ≤ b) := inferInstanceAs (Decidable (a.rank ≤ b.rank))

instance (a b : Level) : Decidable (a < b) := inferInstanceAs (Decidable (a.rank < b.rank))

instance : Ord Level := ⟨fun a b => compare a.rank b.rank⟩

instance : Max Level := ⟨fun a b => if a ≤ b then b else a⟩

/-- A level is below a gate exactly when the gate is not at or below it. -/
theorem not_lt {a b : Level} : ¬ a < b ↔ b ≤ a := Nat.not_lt

theorem not_le {a b : Level} : ¬ a ≤ b ↔ b < a := Nat.not_le

/-- The levels in rising order. -/
def all : List Level := [.unknown, .debug, .info, .warn, .error, .fatal]

theorem mem_all (a : Level) : a ∈ all := by cases a <;> simp [all]

/-- The upper-case name that layouts and documents show. -/
def name : Level → String
  | .unknown => "UNKNOWN"
  | .debug => "DEBUG"
  | .info => "INFO"
  | .warn => "WARN"
  | .error => "ERROR"
  | .fatal => "FATAL"

/-- The capitalised name that record descriptions show. -/
def label : Level → String
  | .unknown => "Unknown"
  | .debug => "Debug"
  | .info => "Info"
  | .warn => "Warn"
  | .error => "Error"
  | .fatal => "Fatal"

/-- The level with exactly this name. -/
def ofName? (text : String) : Option Level := all.find? (·.name == text)

theorem ofName?_name (a : Level) : ofName? a.name = some a := by cases a <;> decide

/-- Reads a level in any letter case; `WARNING` is another spelling of `WARN`. -/
def parse? (text : String) : Option Level :=
  let shown := Text.upper text
  if shown = "WARNING" then some .warn else ofName? shown

/-- What is reported for text that names no level. -/
def parseFailure (text : String) : String := "Invalid log level: '" ++ text ++ "'"

/-- The colour that a level is painted in. -/
def color : Level → Color
  | .unknown => .brightBlack
  | .debug => .blue
  | .info => .green
  | .warn => .yellow
  | .error => .red
  | .fatal => .brightRed

end Level

end EventLog
