import EventLog.Proofs.Facility.Attribution
import EventLog.Proofs.Facility.ConsoleAppender
import EventLog.Proofs.Facility.Meter

/-!
# Every event is accounted for

Appenders to files and to the console are meters (`FileAppender.meter`, `ConsoleAppender.meter`): an
event passes if its level is at or above the gate, and fails if no stream is open, or the write or
the flush after it fails. So in every run, whatever the volume and the console do, the counters
account for each event that passed since they were last reset, and the first failure after a reset is
told on the error stream and no other (`events_accounted`).
-/

namespace EventLog

open Output

theorem AppenderState.isSome_render (state : AppenderState) (east : Int) (logger : Logger)
    (level : Level) (event : Event) :
    (state.render east logger level event).isSome = decide (state.level ≤ level) := by
  rw [render]
  by_cases h : state.level ≤ level
  · rw [if_neg (Level.not_lt.2 h), decide_eq_true h]
    rfl
  · rw [if_pos (Level.not_le.1 h), decide_eq_false h]
    rfl

/-! ## File appenders -/

namespace FileAppender

variable {σ η : Type}

/-- The text of the event, if a call is one to log an event that passes the gate. -/
def text? (entry : (FileAppender η × σ) × Call) : Option String :=
  match entry.2 with
  | .log east logger level event => entry.1.1.render east logger level event
  | _ => none

/-- Whether a call resets the counters. -/
def resets (entry : (FileAppender η × σ) × Call) : Bool :=
  match entry.2 with
  | .resetMetrics => true
  | _ => false

variable (volume : Volume σ η)

/-- What a call tells on the error stream. -/
def told (entry : (FileAppender η × σ) × Call) : Option Diagnostic :=
  match entry.2 with
  | .log east logger level event => (entry.1.1.log volume east logger level event entry.1.2).1
  | _ => none

/-- A file appender as far as its counters go. -/
def meter : Meter (FileAppender η × σ) Call where
  perform := perform volume
  metrics state := state.1.sink.metrics
  told := told volume
  text? := text?
  refuses text state := state.1.sink.refuses volume (Text.utf8 text) state.2
  resets := resets
  text?_of_resets := by
    rintro ⟨state, call⟩ h
    cases call with
    | resetMetrics => rfl
    | _ => cases h
  metrics_perform := by
    rintro ⟨⟨f, s⟩, call⟩
    cases call with
    | log east logger level event =>
      show (f.log volume east logger level event s).2.1.sink.metrics = _
      rw [log, text?]
      dsimp only
      cases f.render east logger level event with
      | none => rfl
      | some text => exact FileSink.metrics_log volume s f.sink text
    | flush => exact FileSink.metrics_flush volume s f.sink
    | reopen => exact FileSink.metrics_reopen volume s f.sink
    | _ => rfl
  isSome_told := by
    rintro ⟨⟨f, s⟩, call⟩
    cases call with
    | log east logger level event =>
      show (f.log volume east logger level event s).1.isSome = _
      rw [log, text?]
      dsimp only
      cases f.render east logger level event with
      | none => rfl
      | some text => exact FileSink.isSome_log volume s f.sink text
    | _ => rfl

/-- What is told is that an event could not be written to the path. -/
theorem exists_told_eq_some {entry : (FileAppender η × σ) × Call} {diagnostic : Diagnostic}
    (h : told volume entry = some diagnostic) :
    ∃ error, diagnostic = .fileWriteFailed entry.1.1.sink.path error := by
  obtain ⟨⟨f, s⟩, call⟩ := entry
  cases call with
  | log east logger level event =>
    dsimp only [told] at h
    rw [log] at h
    split at h
    · cases h
    · exact FileSink.exists_log_eq_some volume s h
  | _ => cases h

end FileAppender

/-! ## Console appenders -/

namespace Output.ConsoleSink

variable (sink : ConsoleSink) (text : String) (console : Console)

/-- What is told of an event, what becomes of the counters, and what the console becomes. -/
theorem log_eq :
    sink.log text console =
      match (console.write text).1 with
      | none => (none, { sink with metrics := sink.metrics.recordWritten }, (console.write text).2)
      | some fault =>
        (if sink.metrics.failed == 0 then some (.consoleWriteFailed fault) else none,
          { sink with metrics := sink.metrics.recordFailed.2 }, (console.write text).2) := by
  rw [ConsoleSink.log]
  cases h : console.write text with
  | mk fault after => cases fault <;> rfl

/-- An event that the console fails to take is counted as failed, and any other as written. -/
theorem metrics_log :
    (sink.log text console).2.1.metrics =
      if (console.write text).1.isSome then sink.metrics.recordFailed.2
      else sink.metrics.recordWritten := by
  rw [log_eq]
  cases (console.write text).1 <;> rfl

/-- An event that the console fails to take is told if no other has failed since the counters were
reset. -/
theorem isSome_log :
    (sink.log text console).1.isSome =
      ((console.write text).1.isSome && sink.metrics.failed == 0) := by
  rw [log_eq]
  cases (console.write text).1 with
  | none => rfl
  | some fault =>
    dsimp only
    cases sink.metrics.failed == 0 <;> rfl

/-- What is told is that the console did not take an event. -/
theorem exists_log_eq_some {diagnostic : Diagnostic}
    (h : (sink.log text console).1 = some diagnostic) :
    ∃ fault, diagnostic = .consoleWriteFailed fault := by
  rw [log_eq] at h
  split at h
  · cases h
  · next fault _ =>
    dsimp only at h
    split at h
    · cases h
      exact ⟨fault, rfl⟩
    · cases h

end Output.ConsoleSink

namespace ConsoleAppender

/-- What the console is given, if a call is one to log an event that passes the gate. -/
def offered? (entry : (ConsoleAppender × Console) × Call) : Option String :=
  match entry.2 with
  | .log east coloring logger level event => entry.1.1.text? east coloring logger level event
  | _ => none

/-- Whether a call resets the counters. -/
def resets (entry : (ConsoleAppender × Console) × Call) : Bool :=
  match entry.2 with
  | .resetMetrics => true
  | _ => false

/-- What a call tells on the error stream. -/
def told (entry : (ConsoleAppender × Console) × Call) : Option Diagnostic :=
  match entry.2 with
  | .log east coloring logger level event =>
    (entry.1.1.log east coloring logger level event entry.1.2).1
  | _ => none

/-- A console appender as far as its counters go. -/
def meter : Meter (ConsoleAppender × Console) Call where
  perform := perform
  metrics state := state.1.sink.metrics
  told := told
  text? := offered?
  refuses text state := (state.2.write text).1.isSome
  resets := resets
  text?_of_resets := by
    rintro ⟨state, call⟩ h
    cases call with
    | resetMetrics => rfl
    | _ => cases h
  metrics_perform := by
    rintro ⟨⟨a, console⟩, call⟩
    cases call with
    | log east coloring logger level event =>
      show (a.log east coloring logger level event console).2.1.sink.metrics = _
      rw [log, offered?]
      dsimp only
      cases a.text? east coloring logger level event with
      | none => rfl
      | some text => exact ConsoleSink.metrics_log a.sink text console
    | _ => rfl
  isSome_told := by
    rintro ⟨⟨a, console⟩, call⟩
    cases call with
    | log east coloring logger level event =>
      show (a.log east coloring logger level event console).1.isSome = _
      rw [log, offered?]
      dsimp only
      cases a.text? east coloring logger level event with
      | none => rfl
      | some text => exact ConsoleSink.isSome_log a.sink text console
    | _ => rfl

theorem exists_told_eq_some {entry : (ConsoleAppender × Console) × Call} {diagnostic : Diagnostic}
    (h : told entry = some diagnostic) : ∃ fault, diagnostic = .consoleWriteFailed fault := by
  obtain ⟨⟨a, console⟩, call⟩ := entry
  cases call with
  | log east coloring logger level event =>
    dsimp only [told] at h
    rw [log] at h
    split at h
    · cases h
    · exact ConsoleSink.exists_log_eq_some a.sink _ console h
  | _ => cases h

end ConsoleAppender

/-! ## What passes -/

/-- The events that pass a file appender are those at or above its gate. -/
theorem FileAppender.passes_meter {σ η : Type} (volume : Volume σ η)
    (entry : (FileAppender η × σ) × FileAppender.Call) :
    (FileAppender.meter volume).passes entry =
      match entry.2 with
      | .log _ _ level _ => decide (entry.1.1.level ≤ level)
      | _ => false := by
  obtain ⟨⟨f, s⟩, call⟩ := entry
  cases call with
  | log east logger level event =>
    exact f.toAppenderState.isSome_render east logger level event
  | _ => rfl

/-- The events that pass a console appender are those at or above its gate. -/
theorem ConsoleAppender.passes_meter (entry : (ConsoleAppender × Console) × ConsoleAppender.Call) :
    ConsoleAppender.meter.passes entry =
      match entry.2 with
      | .log _ _ _ level _ => decide (entry.1.1.level ≤ level)
      | _ => false := by
  obtain ⟨⟨a, console⟩, call⟩ := entry
  cases call with
  | log east coloring logger level event =>
    show (a.text? east coloring logger level event).isSome = _
    rw [ConsoleAppender.text?, Option.isSome_map]
    exact a.toAppenderState.isSome_render east logger level event
  | _ => rfl

/-! ## In a facility -/

namespace Facility

/-- A facility tells what one of its file appenders tells by itself. -/
theorem diagnostics_of_fileState? {s : Facility} {a : AppenderId}
    {state : FileAppender Handle × Disk} (h : s.fileState? a = some state) :
    (∀ l level event, (s.deposit a l level event).diagnostics = s.diagnostics ++
      (FileAppender.told Disk.volume (state, .log s.east (s.logger l) level event)).toList) ∧
    (s.flushAppender a).2.diagnostics = s.diagnostics ∧
    (s.reopen a).2.diagnostics = s.diagnostics ∧
    (s.resetMetrics a).diagnostics = s.diagnostics := by
  obtain ⟨hbefore, hdisk⟩ := fileState?_eq_some.1 h
  have hstate : (s.appender a).toAppenderState = state.1.toAppenderState := by rw [hbefore]
  refine ⟨fun l level event => ?_, ?_, ?_, ?_⟩
  · show _ = s.diagnostics ++
      (state.1.log Disk.volume s.east (s.logger l) level event state.2).1.toList
    rw [deposit, hstate, FileAppender.log]
    cases state.1.render s.east (s.logger l) level event with
    | none => exact (List.append_nil _).symm
    | some text =>
      dsimp only
      rw [emit, hbefore, hdisk]
      rfl
  · rw [flushAppender, hbefore]
    rfl
  · rw [reopen, hbefore]
    rfl
  · rw [resetMetrics, hbefore]
    rfl

/-- A facility tells what one of its console appenders tells by itself. -/
theorem diagnostics_of_consoleState? {s : Facility} {a : AppenderId}
    {state : ConsoleAppender × Console} (h : s.consoleState? a = some state) :
    (∀ l level event, (s.deposit a l level event).diagnostics = s.diagnostics ++
      (ConsoleAppender.told
        (state, .log s.east s.coloring (s.logger l) level event)).toList) ∧
    (s.flushAppender a).2.diagnostics = s.diagnostics ∧
    (s.resetMetrics a).diagnostics = s.diagnostics := by
  obtain ⟨hbefore, hconsole⟩ := consoleState?_eq_some.1 h
  have hstate : (s.appender a).toAppenderState = state.1.toAppenderState := by rw [hbefore]
  refine ⟨fun l level event => ?_, ?_, ?_⟩
  · show _ = s.diagnostics ++
      (state.1.log s.east s.coloring (s.logger l) level event state.2).1.toList
    rw [deposit, hstate, ConsoleAppender.log, ConsoleAppender.text?]
    cases state.1.render s.east (s.logger l) level event with
    | none => exact (List.append_nil _).symm
    | some text =>
      rw [Option.map_some]
      dsimp only
      rw [emit, hbefore, hconsole]
      rfl
  · rw [flushAppender, hbefore]
  · rw [resetMetrics, hbefore]
    rfl

end Facility

/-! ## Runs -/

/-- Appenders to files and to the console account for every event, whatever fails. In any run that
starts with counters at zero and does not make them wrap, they have counted since the last reset the
events whose level was at or above the gate, each as written or as failed, and one failed write is
told of each stretch between resets that had some. -/
theorem events_accounted :
    (∀ {σ η : Type} (volume : Volume σ η) (f : FileAppender η) (s : σ)
        (calls : List FileAppender.Call),
      let meter := FileAppender.meter volume
      let entries := meter.history (f, s) calls
      f.sink.metrics = {} → meter.Bounded entries →
      meter.Accounted (f, s) calls ∧
      (∀ entry ∈ entries, meter.passes entry =
        match entry.2 with
        | .log _ _ level _ => decide (entry.1.1.level ≤ level)
        | _ => false) ∧
      ∀ diagnostic ∈ meter.diagnostics entries,
        ∃ error, diagnostic = .fileWriteFailed f.sink.path error) ∧
    (∀ (a : ConsoleAppender) (console : Console) (calls : List ConsoleAppender.Call),
      let meter := ConsoleAppender.meter
      let entries := meter.history (a, console) calls
      a.sink.metrics = {} → meter.Bounded entries →
      meter.Accounted (a, console) calls ∧
      (∀ entry ∈ entries, meter.passes entry =
        match entry.2 with
        | .log _ _ _ level _ => decide (entry.1.1.level ≤ level)
        | _ => false) ∧
      ∀ diagnostic ∈ meter.diagnostics entries,
        ∃ fault, diagnostic = .consoleWriteFailed fault) := by
  refine ⟨fun volume f s calls hfresh hbound => ⟨?_, fun entry _ => ?_, ?_⟩,
    fun a console calls hfresh hbound => ⟨?_, fun entry _ => ?_, ?_⟩⟩
  · exact (FileAppender.meter volume).accounted (f, s) hfresh calls hbound
  · exact FileAppender.passes_meter volume entry
  · intro diagnostic hdiagnostic
    obtain ⟨entry, hentry, htold⟩ := List.mem_filterMap.1 hdiagnostic
    obtain ⟨error, herror⟩ := FileAppender.exists_told_eq_some volume htold
    -- The path is the same whenever something is told.
    have hpath : entry.1.1.sink.path = f.sink.path :=
      (FileAppender.meter volume).forall_history
        (fun state call hstate => (FileAppender.path_perform state call).trans hstate) rfl calls
        entry hentry
    exact ⟨error, hpath ▸ herror⟩
  · exact ConsoleAppender.meter.accounted (a, console) hfresh calls hbound
  · exact ConsoleAppender.passes_meter entry
  · intro diagnostic hdiagnostic
    obtain ⟨entry, -, htold⟩ := List.mem_filterMap.1 hdiagnostic
    exact ConsoleAppender.exists_told_eq_some htold

/-- A file that takes two bytes of the first event and nothing of the third, with an event below the
gate, a reset and an opening that fails in between; and a console that is full for some time. -/
theorem events_accounted_of_failures :
    let net : Logger :=
      { name := "net"
        layout :=
          { stamp := 0
            layout :=
              { pattern := "%m%n", items := [.field .message, .literal "\n"], hasError := false } } }
    let event : Event :=
      { owner := ⟨0⟩, level := .info, file := "main.rs", line := 1,
        stamp := { elapse := 0, thread := 1, fiber := 0, time := 0 }, message := "up" }
    let tape : Tape :=
      { openings := [none, some .notFound]
        writes := [some (2, .deviceFull), none, some (0, .deviceFull)] }
    let calls : List FileAppender.Call :=
      [.reopen, .log 0 net .info event, .log 0 net .info event, .resetMetrics, .setLevel .warn,
        .log 0 net .info event, .log 0 net .warn event, .reopen, .log 0 net .fatal event]
    let file := FileAppender.meter Tape.volume
    let full : Console := { terminal := { full := true } }
    let shown : List ConsoleAppender.Call :=
      [.log 0 true net .info event, .elsewhere full, .log 0 true net .info event,
        .log 0 true net .warn event]
    let console := ConsoleAppender.meter
    (file.diagnostics (file.history (.unopened "app.log", tape) calls)).length = 2 ∧
      (file.metrics (file.run (.unopened "app.log", tape) calls)).failed.toNat = 2 ∧
      (console.diagnostics (console.history ({}, {}) shown)).length = 1 ∧
      (console.metrics (console.run ({}, {}) shown)).failed.toNat = 2 := by
  intro net event tape calls file full shown console
  have hfileBound : file.Bounded (file.history (.unopened "app.log", tape) calls) := by
    unfold Meter.Bounded
    decide +kernel
  have hconsoleBound : console.Bounded (console.history ({}, {}) shown) := by
    unfold Meter.Bounded
    decide +kernel
  have hfile := (events_accounted.1 Tape.volume (.unopened "app.log") tape calls rfl hfileBound).1
  have hconsole := (events_accounted.2 {} {} shown rfl hconsoleBound).1
  refine ⟨?_, ?_, ?_, ?_⟩
  · rw [hfile.told]
    decide +kernel
  · rw [hfile.failed]
    decide +kernel
  · rw [hconsole.told]
    decide +kernel
  · rw [hconsole.failed]
    decide +kernel

end EventLog
