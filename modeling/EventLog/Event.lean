import EventLog.Identity
import EventLog.Level

/-!
# Events

An event is one occurrence to be logged. Everything but its message is fixed when it is made; the
message only grows. A formatted message is made of pieces, and a piece that cannot be shown ends it
there.
-/

namespace EventLog

/-- The place and moment that an event is stamped with when it is captured. -/
structure Stamp where
  /-- Milliseconds since the logging clock started. -/
  elapse : Nat
  thread : Nat
  fiber : Nat
  /-- Seconds since 1970. -/
  time : Int

/-- One occurrence to be logged. -/
structure Event where
  owner : LoggerId
  level : Level
  file : String
  line : Nat
  stamp : Stamp
  message : String := ""

/-- A part of a formatted message: some text, or a value that fails to be shown. -/
inductive Piece where
  | text (s : String)
  | failure

/-- The text of the pieces up to the first failure. -/
def Piece.shown : List Piece → String
  | [] => ""
  | .text s :: rest => s ++ shown rest
  | .failure :: _ => ""

namespace Event

/-- The event with more text at the end of its message. -/
def append (e : Event) (text : String) : Event := { e with message := e.message ++ text }

/-- The event with a formatted message at the end. A failing piece only cuts the message short. -/
def format (e : Event) (pieces : List Piece) : Event := e.append (Piece.shown pieces)

@[simp] theorem message_append (e : Event) (text : String) :
    (e.append text).message = e.message ++ text := rfl

@[simp] theorem owner_append (e : Event) (text : String) : (e.append text).owner = e.owner := rfl

@[simp] theorem level_append (e : Event) (text : String) : (e.append text).level = e.level := rfl

theorem append_append (e : Event) (text more : String) :
    (e.append text).append more = e.append (text ++ more) := by
  simp [append, String.append_assoc]

end Event

end EventLog
