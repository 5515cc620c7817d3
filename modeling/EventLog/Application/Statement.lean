import EventLog.Application.Program

/-!
# Statements that log a message

A `Statement` logs a message through a logger at a level. It can be written in three forms: as a
shorthand, which asks the gate of the logger before it makes an event; as a stream, which makes an
event whatever the gate and writes the message into it part by part; or plainly, as a call of the
logger with an event that has the message.

The first two make a wrap and never drop it themselves. The wrap goes out of scope at the end of the
statement (`Program.leave`), and that delivers the event.
-/

namespace EventLog

/-- How a statement that logs a message is written. -/
inductive Form where
  | shorthand | streamed | direct
  deriving DecidableEq

/-- A statement of a thread that logs a message. -/
structure Statement where
  thread : ThreadId
  logger : LoggerId
  level : Level
  site : Site
  /-- The message, in the parts that showing it writes. -/
  parts : List String

namespace Statement

/-- The event of a statement as it is made, without its message. -/
def start (st : Statement) (p : Application) : Event :=
  p.capture st.thread st.logger st.level st.site

/-- The event of a statement with its message. -/
def event (st : Statement) (p : Application) : Event := (st.start p).append (String.join st.parts)

/-- The message in pieces, all of which can be shown. -/
def pieces (st : Statement) : List Piece := st.parts.map .text

/-- The steps that a statement takes in some form until its end. -/
def steps (st : Statement) (q : Program) : Form → List Program.Step
  | .shorthand =>
    if (q.app.facility.logger st.logger).level ≤ st.level then
      [.capture st.thread st.logger st.level st.site, .format ⟨q.wraps.size⟩ st.pieces]
    else []
  | .streamed =>
    .capture st.thread st.logger st.level st.site :: st.parts.map (.append ⟨q.wraps.size⟩)
  | .direct => [.call (.operate (.log st.logger st.level (st.event q.app)))]

end Statement

/-- A line of a program: a step, or a statement in some form. -/
inductive Line where
  | step (step : Program.Step)
  | log (form : Form) (statement : Statement)

/-- The line with its statement, if it is one, in another form. -/
def Line.inForm (form : Form) : Line → Line
  | .step s => .step s
  | .log _ st => .log form st

namespace Program

/-- Leaves a scope that was entered with `n` wraps: those made since are dropped, the latest first,
and are gone. -/
def leave (n : Nat) (q : Program) : Program :=
  let left := q.run ((List.range' n (q.wraps.size - n)).reverse.map fun index => .drop ⟨index⟩)
  { left with wraps := { entries := left.wraps.entries.take n } }

/-- Executes a statement in a scope of its own. -/
def execute (form : Form) (st : Statement) (q : Program) : Program :=
  (q.run (st.steps q form)).leave q.wraps.size

/-- What a line leaves. -/
def follow (q : Program) : Line → Program
  | .step s => q.perform s
  | .log form st => q.execute form st

/-- Follows lines in order. -/
def followAll (q : Program) (lines : List Line) : Program := lines.foldl follow q

@[simp] theorem followAll_nil (q : Program) : q.followAll [] = q := rfl

@[simp] theorem followAll_cons (q : Program) (line : Line) (rest : List Line) :
    q.followAll (line :: rest) = (q.follow line).followAll rest := rfl

end Program

end EventLog
