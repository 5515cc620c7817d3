import EventLog.Facility.Operation
import EventLog.Proofs.Facility.Frame

/-!
# Console appenders by themselves

`ConsoleAppender` is one appender to the console with nothing around it but the console. Its calls are
those of the console appenders of a facility (`consoleState?_perform`). The console belongs to others
as well: between two calls it can become anything, so that any writes may fail.
-/

namespace EventLog

open Output

/-- A gate, a layout, and a sink that writes to the console. -/
structure ConsoleAppender extends AppenderState where
  sink : ConsoleSink := {}

namespace ConsoleAppender

/-- One call of a console appender, or what others do to the console. A call to log comes with the
zone, the colouring and the logger as they are. -/
inductive Call where
  | log (east : Int) (coloring : Bool) (logger : Logger) (level : Level) (event : Event)
  | setLevel (level : Level)
  | setLayout (layout : SharedLayout)
  | flush
  | resetMetrics
  | elsewhere (console : Console)

/-- What the console is given of an event, unless the level is below the gate. -/
def text? (east : Int) (coloring : Bool) (logger : Logger) (level : Level) (event : Event)
    (a : ConsoleAppender) : Option String :=
  (a.render east logger level event).map fun text =>
    if a.sink.painted && coloring then paint level.color text else text

/-- Writes and counts an event, unless the level is below the gate. -/
def log (east : Int) (coloring : Bool) (logger : Logger) (level : Level) (event : Event)
    (a : ConsoleAppender) (console : Console) : Option Diagnostic × ConsoleAppender × Console :=
  match a.text? east coloring logger level event with
  | none => (none, a, console)
  | some text =>
    let (diagnostic, sink, console) := a.sink.log text console
    (diagnostic, { a with sink }, console)

/-- What a call leaves. -/
def perform (state : ConsoleAppender × Console) : Call → ConsoleAppender × Console
  | .log east coloring logger level event =>
    (state.1.log east coloring logger level event state.2).2
  | .setLevel level => ({ state.1 with level }, state.2)
  | .setLayout layout => ({ state.1 with layout := some layout }, state.2)
  | .flush => (state.1, state.2.flush.2)
  | .resetMetrics => ({ state.1 with sink := { state.1.sink with metrics := {} } }, state.2)
  | .elsewhere console => (state.1, console)

end ConsoleAppender

/-! ## Console appenders of a facility -/

namespace Facility

/-- A console appender of a facility, together with the console. -/
def consoleState? (s : Facility) (a : AppenderId) : Option (ConsoleAppender × Console) :=
  match (s.appender a).sink with
  | .console sink => some ({ (s.appender a).toAppenderState with sink }, s.console)
  | _ => none

theorem consoleState?_eq_some {s : Facility} {a : AppenderId} {state : ConsoleAppender × Console} :
    s.consoleState? a = some state ↔
      s.appender a = { toAppenderState := state.1.toAppenderState, sink := .console state.1.sink } ∧
        s.console = state.2 := by
  obtain ⟨⟨appenderState, sink⟩, console⟩ := state
  cases h : s.appender a with
  | mk own ownSink =>
    unfold consoleState?
    rw [h]
    cases ownSink <;> simp

variable {s : Facility} {a : AppenderId} {state : ConsoleAppender × Console}

theorem consoleState?_deposit (ha : a.index < s.appenders.size) (h : s.consoleState? a = some state)
    (l : LoggerId) (level : Level) (event : Event) :
    (s.deposit a l level event).consoleState? a =
      some (state.1.log s.east s.coloring (s.logger l) level event state.2).2 := by
  obtain ⟨hbefore, hconsole⟩ := consoleState?_eq_some.1 h
  have hstate : (s.appender a).toAppenderState = state.1.toAppenderState := by rw [hbefore]
  rw [deposit, hstate, ConsoleAppender.log, ConsoleAppender.text?]
  cases state.1.render s.east (s.logger l) level event with
  | none => exact h
  | some text =>
    rw [Option.map_some]
    dsimp only
    rw [emit, hbefore, hconsole]
    refine consoleState?_eq_some.2 ⟨(appender_modifyAppender_self ha _).trans ?_, rfl⟩
    dsimp only
    rw [hstate]
    rfl

/-- A facility does to one of its console appenders, and to the console for it, what the appender does
by itself. -/
theorem consoleState?_perform (ha : a.index < s.appenders.size)
    (h : s.consoleState? a = some state) :
    (∀ l level event, (s.deposit a l level event).consoleState? a =
      some (ConsoleAppender.perform state
        (.log s.east s.coloring (s.logger l) level event))) ∧
    (∀ level, (s.setAppenderLevel a level).consoleState? a =
      some (ConsoleAppender.perform state (.setLevel level))) ∧
    (∀ layout, (s.setAppenderLayout a layout).consoleState? a =
      some (ConsoleAppender.perform state (.setLayout layout))) ∧
    (s.flushAppender a).2.consoleState? a = some (ConsoleAppender.perform state .flush) ∧
    (s.resetMetrics a).consoleState? a = some (ConsoleAppender.perform state .resetMetrics) ∧
    (∀ console, ({ s with console } : Facility).consoleState? a =
      some (ConsoleAppender.perform state (.elsewhere console))) := by
  obtain ⟨hbefore, hconsole⟩ := consoleState?_eq_some.1 h
  refine ⟨fun l level event => consoleState?_deposit ha h l level event, fun level => ?_,
    fun layout => ?_, ?_, ?_, fun console => consoleState?_eq_some.2 ⟨hbefore, rfl⟩⟩
  · refine consoleState?_eq_some.2 ⟨(appender_modifyAppender_self ha _).trans ?_, hconsole⟩
    rw [hbefore]
    rfl
  · refine consoleState?_eq_some.2 ⟨(appender_modifyAppender_self ha _).trans ?_, hconsole⟩
    rw [hbefore]
    rfl
  · rw [flushAppender, hbefore, hconsole]
    exact consoleState?_eq_some.2 ⟨hbefore, rfl⟩
  · rw [resetMetrics, hbefore]
    refine consoleState?_eq_some.2 ⟨(appender_modifyAppender_self ha _).trans ?_, hconsole⟩
    rw [hbefore]
    rfl

end Facility

end EventLog
