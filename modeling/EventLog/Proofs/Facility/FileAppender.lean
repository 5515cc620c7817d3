import EventLog.Facility.Operation
import EventLog.Proofs.Facility.Frame

/-!
# File appenders by themselves

`FileAppender` is one file appender with nothing around it but a volume, on which other calls than its
own change nothing. Its calls are those of the appenders of a facility that write to files: as long as
only that appender is called, a facility does to it and to the disk what `FileAppender.perform` does
on `Output.Disk.volume` (`fileState?_perform`), from its making on (`fileState?_make`).
-/

namespace EventLog

open Output

/-- A gate, a layout, and a sink that writes to a file. -/
structure FileAppender (η : Type) extends AppenderState where
  sink : FileSink η

namespace FileAppender

variable {σ η : Type}

/-- A file appender whose path was never opened. -/
def unopened (path : String) : FileAppender η := { sink := { path } }

/-- One call of a file appender. A call to log comes with the zone and the logger as they are. -/
inductive Call where
  | log (east : Int) (logger : Logger) (level : Level) (event : Event)
  | setLevel (level : Level)
  | setLayout (layout : SharedLayout)
  | flush
  | reopen
  | resetMetrics

section

variable (volume : Volume σ η)

/-- Writes and counts an event, unless the level is below the gate. -/
def log (east : Int) (logger : Logger) (level : Level) (event : Event) (f : FileAppender η) (s : σ) :
    Option Diagnostic × FileAppender η × σ :=
  match f.render east logger level event with
  | none => (none, f, s)
  | some text =>
    let (diagnostic, sink, s) := f.sink.log volume text s
    (diagnostic, { f with sink }, s)

/-- Flushes the stream. -/
def flush (f : FileAppender η) (s : σ) : Option Fault × FileAppender η × σ :=
  let (fault, sink, s) := f.sink.flush volume s
  (fault, { f with sink }, s)

/-- Opens the path again, emptying the file. -/
def reopen (f : FileAppender η) (s : σ) : Except Error Unit × FileAppender η × σ :=
  let (result, sink, s) := f.sink.reopen volume s
  (result, { f with sink }, s)

/-- What a call leaves. -/
def perform (state : FileAppender η × σ) : Call → FileAppender η × σ
  | .log east logger level event => (state.1.log volume east logger level event state.2).2
  | .setLevel level => ({ state.1 with level }, state.2)
  | .setLayout layout => ({ state.1 with layout := some layout }, state.2)
  | .flush => (state.1.flush volume state.2).2
  | .reopen => (state.1.reopen volume state.2).2
  | .resetMetrics => ({ state.1 with sink := { state.1.sink with metrics := {} } }, state.2)

/-- What calls in order leave. -/
def run (state : FileAppender η × σ) (calls : List Call) : FileAppender η × σ :=
  calls.foldl (perform volume) state

end

/-- A call with the appender before and after it. -/
structure Entry (η : Type) where
  before : FileAppender η
  call : Call
  after : FileAppender η

namespace Entry

/-- The text of the event, if the call is one to log an event that passes the gate. -/
def text? (entry : Entry η) : Option String :=
  match entry.call with
  | .log east logger level event => entry.before.render east logger level event
  | _ => none

/-- Whether the call opened the file. -/
def opens (entry : Entry η) : Bool :=
  match entry.call with
  | .reopen => entry.after.sink.isOpen
  | _ => false

end Entry

/-- The calls of a run, each with the appender before and after it. -/
def history (volume : Volume σ η) (state : FileAppender η × σ) : List Call → List (Entry η)
  | [] => []
  | call :: rest =>
    let next := perform volume state call
    { before := state.1, call, after := next.1 } :: history volume next rest

theorem run_concat (volume : Volume σ η) (state : FileAppender η × σ) (calls : List Call)
    (call : Call) :
    run volume state (calls ++ [call]) = perform volume (run volume state calls) call := by
  rw [run, List.foldl_append]
  rfl

theorem history_concat (volume : Volume σ η) (state : FileAppender η × σ) (calls : List Call)
    (call : Call) :
    history volume state (calls ++ [call]) =
      history volume state calls ++
        [{ before := (run volume state calls).1
           call
           after := (perform volume (run volume state calls) call).1 }] := by
  induction calls generalizing state with
  | nil => rfl
  | cons first rest ih =>
    rw [List.cons_append, history, ih (perform volume state first)]
    rfl

end FileAppender

/-! ## File appenders of a facility -/

namespace Facility

/-- A file appender of a facility, together with the disk. -/
def fileState? (s : Facility) (a : AppenderId) : Option (FileAppender Handle × Disk) :=
  match (s.appender a).sink with
  | .file sink => some ({ (s.appender a).toAppenderState with sink }, s.disk)
  | _ => none

theorem fileState?_eq_some {s : Facility} {a : AppenderId} {state : FileAppender Handle × Disk} :
    s.fileState? a = some state ↔
      s.appender a = { toAppenderState := state.1.toAppenderState, sink := .file state.1.sink } ∧
        s.disk = state.2 := by
  obtain ⟨⟨appenderState, sink⟩, disk⟩ := state
  cases h : s.appender a with
  | mk own ownSink =>
    unfold fileState?
    rw [h]
    cases ownSink <;> simp

variable {s : Facility} {a : AppenderId} {state : FileAppender Handle × Disk}

/-- Putting a file sink into an appender next to a disk is all that the facility does to it. -/
theorem fileState?_setSink (ha : a.index < s.appenders.size) (h : s.fileState? a = some state)
    (sink : FileSink Handle) (disk : Disk) (diagnostic : Option Diagnostic) :
    (({ s with disk }.setSink a (.file sink)).tell diagnostic).fileState? a =
      some ({ state.1 with sink }, disk) := by
  have hbefore := (fileState?_eq_some.1 h).1
  have hset : ({ s with disk }.setSink a (.file sink)).appender a =
      { s.appender a with sink := .file sink } :=
    appender_modifyAppender_self ha _
  refine fileState?_eq_some.2 ⟨hset.trans ?_, rfl⟩
  rw [hbefore]

theorem fileState?_deposit (ha : a.index < s.appenders.size) (h : s.fileState? a = some state)
    (l : LoggerId) (level : Level) (event : Event) :
    (s.deposit a l level event).fileState? a =
      some (state.1.log Disk.volume s.east (s.logger l) level event state.2).2 := by
  obtain ⟨hbefore, hdisk⟩ := fileState?_eq_some.1 h
  have hstate : (s.appender a).toAppenderState = state.1.toAppenderState := by rw [hbefore]
  rw [deposit, hstate, FileAppender.log]
  cases state.1.render s.east (s.logger l) level event with
  | none => exact h
  | some text =>
    dsimp only
    rw [emit, hbefore, hdisk]
    exact fileState?_setSink ha h _ _ _

/-- A facility does to one of its file appenders, and to the disk for it, what the appender does by
itself. -/
theorem fileState?_perform (ha : a.index < s.appenders.size) (h : s.fileState? a = some state) :
    (∀ l level event, (s.deposit a l level event).fileState? a =
      some (FileAppender.perform Disk.volume state (.log s.east (s.logger l) level event))) ∧
    (∀ level, (s.setAppenderLevel a level).fileState? a =
      some (FileAppender.perform Disk.volume state (.setLevel level))) ∧
    (∀ layout, (s.setAppenderLayout a layout).fileState? a =
      some (FileAppender.perform Disk.volume state (.setLayout layout))) ∧
    (s.flushAppender a).2.fileState? a = some (FileAppender.perform Disk.volume state .flush) ∧
    (s.reopen a).2.fileState? a = some (FileAppender.perform Disk.volume state .reopen) ∧
    (s.resetMetrics a).fileState? a = some (FileAppender.perform Disk.volume state .resetMetrics) := by
  obtain ⟨hbefore, hdisk⟩ := fileState?_eq_some.1 h
  refine ⟨fun l level event => fileState?_deposit ha h l level event, fun level => ?_,
    fun layout => ?_, ?_, ?_, ?_⟩
  · refine fileState?_eq_some.2 ⟨(appender_modifyAppender_self ha _).trans ?_, hdisk⟩
    rw [hbefore]
    rfl
  · refine fileState?_eq_some.2 ⟨(appender_modifyAppender_self ha _).trans ?_, hdisk⟩
    rw [hbefore]
    rfl
  · rw [flushAppender, hbefore, hdisk]
    exact fileState?_setSink ha h _ _ none
  · rw [reopen, hbefore, hdisk]
    exact fileState?_setSink ha h _ _ none
  · rw [resetMetrics, hbefore]
    refine (fileState?_setSink ha h _ s.disk none).trans ?_
    rw [hdisk]
    rfl

/-- Both ways to make a file appender open the path once, with nothing before. -/
theorem fileState?_make (s : Facility) (path : String) :
    (s.newFileAppender path).2.fileState? ⟨s.appenders.size⟩ =
        some (FileAppender.perform Disk.volume (.unopened path, s.disk) .reopen) ∧
      (s.openFileAppender path).2.fileState? ⟨s.appenders.size⟩ =
        some (FileAppender.perform Disk.volume (.unopened path, s.disk) .reopen) := by
  have hsize : s.appenders.size < (s.newAppender (.file { path })).2.appenders.size := by
    show s.appenders.size < (s.appenders.push _).size
    rw [Store.size_push]
    omega
  have hfresh : (s.newAppender (.file { path })).2.fileState? ⟨s.appenders.size⟩ =
      some (.unopened path, s.disk) := by
    rw [fileState?_eq_some, appender_newAppender, if_pos rfl]
    exact ⟨rfl, rfl⟩
  obtain ⟨-, -, -, -, hreopen, -⟩ := fileState?_perform hsize hfresh
  obtain ⟨diagnostic, hnew⟩ := exists_newFileAppender_snd path s
  rw [hnew, openFileAppender_snd]
  exact ⟨hreopen, hreopen⟩

end Facility

end EventLog
