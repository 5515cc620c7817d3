import EventLog.Facility.Log

/-!
# Operations and their runs

An `Operation` is one call of a program on loggers and appenders, or a change that the world outside
makes to what they write to. `Facility.run` performs operations in order, and `Facility.history` pairs
each with the facility that it meets.
-/

namespace EventLog

/-- A call on a logger or an appender, or a change of the surroundings. -/
inductive Operation where
  -- Loggers.
  | newLogger (name : String)
  | setLevel (l : LoggerId) (level : Level)
  | setLayout (l : LoggerId) (layout : SharedLayout)
  | setPattern (l : LoggerId) (pattern : String)
  | addAppender (l : LoggerId) (a : AppenderId)
  | delAppender (l : LoggerId) (a : AppenderId)
  | clearAppenders (l : LoggerId)
  | flush (l : LoggerId)
  | log (l : LoggerId) (level : Level) (event : Event)
  -- Appenders.
  | newMemory
  | newConsole (painted : Bool)
  | newFile (path : String)
  | openFile (path : String)
  | setAppenderLevel (a : AppenderId) (level : Level)
  | setAppenderLayout (a : AppenderId) (layout : SharedLayout)
  | setAppenderPattern (a : AppenderId) (pattern : String)
  | take (a : AppenderId)
  | flushAppender (a : AppenderId)
  | reopen (a : AppenderId)
  | resetMetrics (a : AppenderId)
  /-- The zone, the colouring, the console and the disk become what something else made of them. -/
  | surround (east : Int) (coloring : Bool) (console : Output.Console) (disk : Output.Disk)

namespace Facility

/-- What an operation leaves. -/
def perform [Calendar] (s : Facility) : Operation → Facility
  | .newLogger name => (s.newLogger name).2
  | .setLevel l level => s.setLevel l level
  | .setLayout l layout => s.setLayout l layout
  | .setPattern l pattern => (s.setPattern l pattern).2
  | .addAppender l a => s.addAppender l a
  | .delAppender l a => s.delAppender l a
  | .clearAppenders l => s.clearAppenders l
  | .flush l => (s.flush l).2
  | .log l level event => s.log l level event
  | .newMemory => (s.newAppender (.memory [])).2
  | .newConsole painted => (s.newAppender (.console { painted })).2
  | .newFile path => (s.newFileAppender path).2
  | .openFile path => (s.openFileAppender path).2
  | .setAppenderLevel a level => s.setAppenderLevel a level
  | .setAppenderLayout a layout => s.setAppenderLayout a layout
  | .setAppenderPattern a pattern => s.setAppenderPattern a pattern
  | .take a => (s.take a).2
  | .flushAppender a => (s.flushAppender a).2
  | .reopen a => (s.reopen a).2
  | .resetMetrics a => s.resetMetrics a
  | .surround east coloring console disk => { s with east, coloring, console, disk }

/-- Performs operations in order. -/
def run [Calendar] (s : Facility) (operations : List Operation) : Facility :=
  operations.foldl perform s

/-- The operations of a run, each with the facility that it meets. -/
def history [Calendar] (s : Facility) : List Operation → List (Facility × Operation)
  | [] => []
  | operation :: rest => (s, operation) :: (s.perform operation).history rest

@[simp] theorem run_nil [Calendar] (s : Facility) : s.run [] = s := rfl

@[simp] theorem run_cons [Calendar] (s : Facility) (operation : Operation) (rest : List Operation) :
    s.run (operation :: rest) = (s.perform operation).run rest := rfl

theorem run_append [Calendar] (s : Facility) (before after : List Operation) :
    s.run (before ++ after) = (s.run before).run after :=
  List.foldl_append

theorem history_append [Calendar] (s : Facility) (before after : List Operation) :
    s.history (before ++ after) = s.history before ++ (s.run before).history after := by
  induction before generalizing s with
  | nil => rfl
  | cons operation rest ih =>
    rw [List.cons_append, history, ih (s.perform operation)]
    rfl

end Facility

end EventLog
