import EventLog.Error
import EventLog.Metrics
import EventLog.Output.Disk

/-!
# Writing events to a file

A file sink holds a path and, while it is open, a stream on it. Each event is written through the
stream's buffer and flushed; when that fails, the bytes not yet written are thrown away, so that no
part of a failed event can come before a later one. Opening always empties the file. The sink never
opens again on its own.

The sink works on any volume: a way to open paths and a receiver for what is open. `Disk.volume` is
the one that sessions use.
-/

namespace EventLog.Output

/-- A place where files can be opened and written: `σ` is its state, `η` an open file. -/
structure Volume (σ η : Type) where
  create : String → σ → Except Fault η × σ
  receive : Receiver (σ × η)

/-- The disk as a volume. -/
def Disk.volume : Volume Disk Handle where
  create := Disk.create
  receive := Disk.receive

/-- An open file behind its buffer. -/
structure Stream (η : Type) where
  handle : η
  buffer : Buffer := { capacity := 8192 }

/-- A path, the stream that is open on it, and the counters. -/
structure FileSink (η : Type) where
  path : String
  stream : Option (Stream η) := none
  metrics : Metrics := {}

namespace FileSink

variable {σ η : Type}

/-- Whether a stream is open. -/
def isOpen (f : FileSink η) : Bool := f.stream.isSome

/-- Flushes the stream that is open, if one is. -/
def flush (volume : Volume σ η) (f : FileSink η) (s : σ) : Option Fault × FileSink η × σ :=
  match f.stream with
  | none => (none, f, s)
  | some stream =>
    let out := stream.buffer.flush volume.receive (s, stream.handle)
    (out.fault, { f with stream := some { handle := out.device.2, buffer := out.buffer } },
     out.device.1)

/-- Lets the stream go: it is flushed, and flushes once more on its own. Faults are not told. -/
def release (volume : Volume σ η) (f : FileSink η) (s : σ) : σ :=
  let (_, f, s) := f.flush volume s
  (f.flush volume s).2.2

/-- Lets the stream go and opens the path again. A failure leaves the sink closed. -/
def reopen (volume : Volume σ η) (f : FileSink η) (s : σ) : Except Error Unit × FileSink η × σ :=
  match volume.create f.path (f.release volume s) with
  | (.ok handle, s) => (.ok (), { f with stream := some { handle } }, s)
  | (.error fault, s) => (.error (.fileAppender f.path fault), { f with stream := none }, s)

/-- Writes bytes and flushes them. On a failure what was not written is thrown away. -/
def put (volume : Volume σ η) (bytes : List UInt8) (f : FileSink η) (s : σ) :
    Except Error Unit × FileSink η × σ :=
  match f.stream with
  | none => (.error .fileNotOpen, f, s)
  | some stream =>
    let written := stream.buffer.write volume.receive bytes (s, stream.handle)
    let out :=
      match written.fault with
      | none => written.buffer.flush volume.receive written.device
      | some _ => written
    match out.fault with
    | none =>
      (.ok (), { f with stream := some { handle := out.device.2, buffer := out.buffer } },
       out.device.1)
    | some fault =>
      (.error (.io fault), { f with stream := some { handle := out.device.2 } }, out.device.1)

/-- Writes one event and counts it. The first failure since the counters were reset is told. -/
def log (volume : Volume σ η) (text : String) (f : FileSink η) (s : σ) :
    Option Diagnostic × FileSink η × σ :=
  match f.put volume (Text.utf8 text) s with
  | (.ok (), f, s) => (none, { f with metrics := f.metrics.recordWritten }, s)
  | (.error error, f, s) =>
    let (first, metrics) := f.metrics.recordFirstFailure
    (if first then some (.fileWriteFailed f.path error) else none, { f with metrics }, s)

end FileSink

end EventLog.Output
