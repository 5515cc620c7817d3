import EventLog.Fault

/-!
# Buffered writing

A device takes a first part of the bytes it is given, and all of them unless it tells a fault. In
front of it stands a buffer of fixed capacity that collects small writes: a write that does not fit
empties the buffer first, and a write as long as the whole buffer goes straight to the device.

`Buffer.writeLines` is the discipline of a terminal: complete lines go out at once, the unfinished
last line waits.
-/

namespace EventLog.Output

/-- What a device made of some bytes: how many it took, and why it stopped if it did. -/
structure Intake (δ : Type) where
  device : δ
  taken : Nat
  fault : Option Fault

/-- How a device takes bytes. -/
abbrev Receiver (δ : Type) := List UInt8 → δ → Intake δ

/-- Bytes that wait in front of a device. -/
structure Buffer where
  capacity : Nat
  pending : List UInt8 := []

/-- The buffer and the device after a write, and the fault that ended it if there was one. -/
structure Outcome (δ : Type) where
  buffer : Buffer
  device : δ
  fault : Option Fault

namespace Buffer

variable {δ : Type}

/-- Hands the waiting bytes to the device. What it does not take keeps waiting. -/
def flush (receive : Receiver δ) (b : Buffer) (d : δ) : Outcome δ :=
  if b.pending = [] then ⟨b, d, none⟩
  else
    let intake := receive b.pending d
    match intake.fault with
    | none => ⟨{ b with pending := [] }, intake.device, none⟩
    | some fault =>
      ⟨{ b with pending := b.pending.drop intake.taken }, intake.device, some fault⟩

/-- Writes bytes when they do not simply fit: straight to the device if they would fill a whole
buffer, else behind what waits. -/
def writeThrough (receive : Receiver δ) (bytes : List UInt8) (b : Buffer) (d : δ) : Outcome δ :=
  if b.capacity ≤ bytes.length then
    let intake := receive bytes d
    ⟨b, intake.device, intake.fault⟩
  else ⟨{ b with pending := b.pending ++ bytes }, d, none⟩

/-- Writes all the bytes, unless the device fails. -/
def write (receive : Receiver δ) (bytes : List UInt8) (b : Buffer) (d : δ) : Outcome δ :=
  let spare := b.capacity - b.pending.length
  if bytes.length < spare then ⟨{ b with pending := b.pending ++ bytes }, d, none⟩
  else if spare < bytes.length then
    let flushed := b.flush receive d
    match flushed.fault with
    | none => flushed.buffer.writeThrough receive bytes flushed.device
    | some _ => flushed
  else b.writeThrough receive bytes d

/-- The byte that ends a line. -/
def lineEnd : UInt8 := 10

/-- The complete lines of some bytes, and the unfinished line after them. -/
def splitLines (bytes : List UInt8) : List UInt8 × List UInt8 :=
  ((bytes.reverse.dropWhile (· != lineEnd)).reverse,
   (bytes.reverse.takeWhile (· != lineEnd)).reverse)

/-- Writes complete lines through: to the device if nothing waits, else together with what does. -/
def writeCompleteLines (receive : Receiver δ) (lines : List UInt8) (b : Buffer) (d : δ) :
    Outcome δ :=
  if b.pending = [] then
    let intake := receive lines d
    ⟨b, intake.device, intake.fault⟩
  else
    let written := b.write receive lines d
    match written.fault with
    | none => written.buffer.flush receive written.device
    | some _ => written

/-- Empties the buffer if a complete line waits at its end. -/
def flushCompleteLine (receive : Receiver δ) (b : Buffer) (d : δ) : Outcome δ :=
  if b.pending.getLast? = some lineEnd then b.flush receive d else ⟨b, d, none⟩

/-- Writes bytes to a terminal: complete lines go out, the unfinished last line waits. -/
def writeLines (receive : Receiver δ) (bytes : List UInt8) (b : Buffer) (d : δ) : Outcome δ :=
  let (lines, rest) := splitLines bytes
  let out :=
    if lines = [] then b.flushCompleteLine receive d else b.writeCompleteLines receive lines d
  match out.fault with
  | none => out.buffer.write receive rest out.device
  | some _ => out

end Buffer

end EventLog.Output
