import EventLog.Error
import EventLog.Level
import EventLog.Metrics
import EventLog.Output.Buffer
import EventLog.Text.Utf8

/-!
# The console

Standard output is a terminal behind a line buffer. The terminal shows everything it is given, or,
while it is full, refuses everything. `paint` puts text into the colour of a level.
-/

namespace EventLog.Output

/-- What reads the console. -/
structure Terminal where
  shown : List UInt8 := []
  full : Bool := false

namespace Terminal

/-- A terminal takes all or, while it is full, nothing. -/
def receive : Receiver Terminal := fun bytes t =>
  if t.full then ⟨t, 0, some .deviceFull⟩
  else ⟨{ t with shown := t.shown ++ bytes }, bytes.length, none⟩

end Terminal

/-- Standard output. -/
structure Console where
  terminal : Terminal := {}
  buffer : Buffer := { capacity := 1024 }

namespace Console

private def settle (outcome : Outcome Terminal) : Option Fault × Console :=
  (outcome.fault, { terminal := outcome.device, buffer := outcome.buffer })

/-- Writes a text; the fault tells that it failed. -/
def write (text : String) (c : Console) : Option Fault × Console :=
  settle (c.buffer.writeLines Terminal.receive (Text.utf8 text) c.terminal)

/-- Shows what waits. -/
def flush (c : Console) : Option Fault × Console :=
  settle (c.buffer.flush Terminal.receive c.terminal)

/-- Makes the terminal full, or takes that back. -/
def setFull (full : Bool) (c : Console) : Console :=
  { c with terminal := { c.terminal with full } }

/-- What has been shown, and the console with an empty screen. -/
def drain (c : Console) : String × Console :=
  ((Text.ofUtf8? c.terminal.shown).getD "",
   { c with terminal := { c.terminal with shown := [] } })

end Console

/-- The escape that ends colouring. -/
def colorEnd : List Char := "\x1b[0m".toList

/-- The escape that starts a colour. -/
def colorStart (color : Color) : List Char := ("\x1b[" ++ toString color.code ++ "m").toList

/-- Starts the colour again after each escape in the text that ends colouring. -/
def recolor (color : Color) : List Char → List Char
  | [] => []
  | c :: rest =>
    if colorEnd.isPrefixOf (c :: rest) then
      colorEnd ++ colorStart color ++ recolor color (rest.drop (colorEnd.length - 1))
    else c :: recolor color rest
termination_by text => text.length
decreasing_by all_goals simp_wf; try omega

/-- The text in a colour; the line ends after it stay outside. -/
def paint (color : Color) (text : String) : String :=
  let reversed := text.toList.reverse
  let body := (reversed.dropWhile (· == '\n')).reverse
  let tail := reversed.takeWhile (· == '\n')
  String.ofList (colorStart color ++ recolor color body ++ colorEnd ++ tail)

/-- Writes events to the console: whether it paints them, and its counters. -/
structure ConsoleSink where
  painted : Bool := false
  metrics : Metrics := {}

/-- Writes one event and counts it. The first failure since the counters were reset is told. -/
def ConsoleSink.log (text : String) (sink : ConsoleSink) (c : Console) :
    Option Diagnostic × ConsoleSink × Console :=
  match c.write text with
  | (none, c) => (none, { sink with metrics := sink.metrics.recordWritten }, c)
  | (some fault, c) =>
    let (first, metrics) := sink.metrics.recordFirstFailure
    (if first then some (.consoleWriteFailed fault) else none, { sink with metrics }, c)

end EventLog.Output
