import EventLog.Config.Decode
import EventLog.Config.Json
import EventLog.Demo.Transcript
import EventLog.Application.Basic

/-!
# Demonstrations

Three small programs show how the library is used. A program runs on an application whose shared
registry writes to the console; it ends well or with an error, and what it wrote until then stays.
-/

namespace EventLog.Demo

/-- A program: it changes the application and may end with an error. -/
abbrev Program := ExceptT Error (StateM Application)

/-- The three programs. -/
inductive Name where
  | basicUsage | fileLogging | threads

/-- The text by which a program is chosen, and by which its call sites are named. -/
def Name.text : Name → String
  | basicUsage => "basic_usage"
  | fileLogging => "file_logging"
  | threads => "threads"

/-- The call site on a line of a program. -/
def Name.site (name : Name) (line : Nat) : Site :=
  { file := "demos/" ++ name.text ++ ".rs", line }

/-- Runs an operation on the loggers and appenders. -/
def onFacility {α : Type} (operation : Facility → α × Facility) : Program α :=
  modifyGet fun p =>
    let (result, facility) := operation p.facility
    (result, { p with facility })

/-- Runs an operation on the loggers and appenders that may be refused. -/
def tryFacility {α : Type} (operation : Facility → Except Error α × Facility) : Program α := do
  match ← onFacility operation with
  | .ok result => return result
  | .error error => throw error

/-- Writes a line to the console. -/
def say (text : String) : Program Unit :=
  onFacility fun facility =>
    ((), { facility with console := (facility.console.write (text ++ "\n")).2 })

/-- Logs a message by the shorthand call on a thread. -/
def logOn (t : ThreadId) (site : Site) (l : LoggerId) (level : Level) (message : String) :
    Program Unit :=
  modify fun p => p.shorthand t l level site [.text message]

/-- Logs a message by the shorthand call on the main thread. -/
def logAt (site : Site) (l : LoggerId) (level : Level) (message : String) : Program Unit :=
  logOn Threads.main site l level message

/-- Shows levels, patterns, gates, the stream call, faulty patterns and the registry. -/
def basicUsage : Program Unit := do
  let site := Name.basicUsage.site
  say "=== lch_log - Basic Usage Example ===\n"
  let logger ← onFacility (·.newConsoleLogger "basic")
  say "1. Logging at different levels (default pattern):"
  logAt (site 21) logger .debug "This is a debug message"
  logAt (site 22) logger .info "This is an info message"
  logAt (site 23) logger .warn "This is a warning message"
  logAt (site 24) logger .error "This is an error message"
  logAt (site 25) logger .fatal "This is a fatal message"
  say "\n2. Custom pattern:"
  tryFacility (·.setPattern logger "%d\x7b%H:%M:%S\x7d%T[%p]%T[%c]%T%m%n")
  let pattern := ((← get).facility.logger logger).layout.layout.pattern
  logAt (site 29) logger .info ("Pattern changed to " ++ pattern)
  say "\n3. Logging with different minimum levels:"
  onFacility fun facility => ((), facility.setLevel logger .info)
  say "   Minimum level set to INFO - debug won't show:"
  logAt (site 34) logger .debug "Debug message (hidden)"
  logAt (site 35) logger .info "Info message (visible)"
  say "\n4. Stream-style logging:"
  let wrap := (← get).capture Threads.main logger .warn (site 38)
  let wrap := (wrap.append "disk usage at 91%").append ", cleanup scheduled"
  modify (·.deliver wrap)
  say "\n5. Malformed patterns render markers instead of failing:"
  let broken ← onFacility (·.newLogger "broken")
  let appender ← onFacility (·.newAppender (.console {}))
  onFacility fun facility => ((), facility.setAppenderPattern appender "%z %m %d\x7b%Y%n")
  onFacility fun facility => ((), facility.addAppender broken appender)
  logAt (site 47) broken .info "message before the unterminated brace"
  say ""
  say "\n6. Registry lookups fall back to root:"
  modify fun p => { p with registry := (p.registry.add logger p.facility).2 }
  logAt (site 53) ((← get).registry.get "basic") .info "found by name"
  logAt (site 54) ((← get).registry.get "nobody") .info "unknown names log through root"
  say "\n=== Example completed successfully! ==="

/-- The configuration that `fileLogging` reads. -/
def fileLoggingConfig : String :=
  "[\x7b\"name\": \"system\", \"level\": \"INFO\",
    \"pattern\": \"%d\x7b%Y-%m-%d %H:%M:%S\x7d%T[%p]%T[%c]%T%m%n\",
    \"appenders\": [\x7b\"type\": \"stdout\"\x7d,
      \x7b\"type\": \"file\", \"path\": \"system.log\", \"level\": \"WARN\"\x7d]\x7d]"

/-- The configurations that a text holds. -/
def readConfigs (text : String) : Program (List Config.LoggerConfig) := do
  let some document := Config.Document.ofJson? text
    | throw (.invalidConfiguration "json" "expected value")
  match Config.decodeSequence Config.LoggerConfig.decode document with
  | .ok configs => return configs
  | .error error => throw (.invalidConfiguration "json" error.message)

/-- Shows files beside the console, opening a file again, and configurations. -/
def fileLogging : Program Unit := do
  let site := Name.fileLogging.site
  say "=== lch_log - File Logging Example ===\n"
  let file ← tryFacility (·.openFileAppender "application.log")
  let console ← onFacility (·.newAppender (.console {}))
  let builder : LoggerBuilder := { name := "app" }
  let builder := builder.withPattern "%d\x7b%Y-%m-%d %H:%M:%S\x7d%T[%p]%T%f:%l%T%m%n"
  let logger ← onFacility (·.build ((builder.withAppender console).withAppender file))
  say "1. Logging to both console and file:"
  logAt (site 36) logger .info "Application started"
  logAt (site 37) logger .debug "Loading configuration..."
  logAt (site 38) logger .info "Configuration loaded successfully"
  logAt (site 39) logger .warn "Using default settings for some options"
  logAt (site 40) logger .error "Failed to load optional plugin"
  say "\n2. Performing some operations:"
  for i in [1, 2, 3, 4, 5] do
    logAt (site 44) logger .info ("Processing item " ++ toString i ++ "/5")
    if i = 3 then logAt (site 46) logger .warn "Item 3 took longer than expected"
  say "\n3. Reopening the file (e.g. after external rotation):"
  tryFacility (·.reopen file)
  logAt (site 52) logger .info "Written to a fresh application.log"
  let metrics := match ((← get).facility.appender file).sink with
    | .file sink => sink.metrics
    | _ => {}
  say ("   written=" ++ toString metrics.written ++ " failed=" ++ toString metrics.failed)
  say "\n4. Loggers from JSON configuration:"
  let configs ← readConfigs fileLoggingConfig
  let applied ← modifyGet fun p =>
    let (result, facility, registry) := p.registry.apply configs p.facility
    (result, { p with facility, registry })
  if let .error error := applied then throw error
  let system := (← get).registry.get "system"
  logAt (site 66) system .info "console only"
  logAt (site 67) system .warn "console and system.log"
  tryFacility (·.flush logger)
  tryFacility (·.flush system)
  say "\n=== Example completed successfully! ==="
  say "Check 'application.log' and 'system.log' for the file output"

/-- Starts a thread that logs who it is. -/
def startWorker (l : LoggerId) (site : Site) (index : Nat) : Program ThreadHandle := do
  let started ← modifyGet fun p => p.spawn Threads.main ("name_" ++ toString index)
  match started with
  | .error error => throw error
  | .ok handle =>
    let threads := (← get).threads
    let state := threads.state handle.thread
    let this := threads.this handle.thread
    logOn handle.thread site l .info
      ("name: " ++ state.name ++ " this.name: " ++ (this.map (·.name)).getD ""
        ++ " id: " ++ toString state.number
        ++ " this.id: " ++ toString ((this.map (·.number)).getD 0))
    modify fun p => { p with threads := p.threads.finish handle.thread .returned }
    return handle

/-- Shows named threads that log who they are. -/
def threads : Program Unit := do
  let site := Name.threads.site
  let logger := (← get).registry.root
  logAt (site 13) logger .info "thread test begin"
  let handles ← [0, 1, 2, 3, 4].mapM (startWorker logger (site 20))
  for handle in handles do
    let joined ← modifyGet fun p =>
      match p.join Threads.main handle with
      | some (result, _, p) => (result, p)
      | none => (.ok (), p)
    if let .error error := joined then throw error
  logAt (site 37) logger .info "thread test end"

/-- The program of a name. -/
def Name.program : Name → Program Unit
  | basicUsage => Demo.basicUsage
  | fileLogging => Demo.fileLogging
  | threads => Demo.threads

/-- How a demonstration ended and what it left: the exit code, the transcripts of both streams, and
the entries of the working folder, folders without text. -/
structure Outcome where
  code : Nat
  console : String
  errors : String
  entries : List (String × Option String)

/-- Makes folders and files in the working folder. -/
def prepare (folders : List String) (files : List (String × String)) (disk : Output.Disk) :
    Output.Disk :=
  let disk := folders.foldl (fun disk path => (disk.makeFolder path).2) disk
  files.foldl (fun disk (path, text) => (disk.writeText path text).2) disk

/-- The entries of the working folder, with the transcripts of the files. -/
def listing (disk : Output.Disk) : List (String × Option String) :=
  disk.entries.filterMap fun (path, node) =>
    if path.contains '/' then none
    else
      match node with
      | .file number => some (path, (Text.ofUtf8? (disk.bytes number)).map transcript)
      | _ => some (path, none)

/-- Runs a demonstration in a working folder that holds some folders and files. -/
def run (name : Name) (east : Int) (folders : List String) (files : List (String × String)) :
    Outcome :=
  let app := Application.withConsole east
  let app := app.onFacility fun facility =>
    { facility with disk := prepare folders files facility.disk }
  let (result, app) := (Name.program name).run.run app
  let facility := app.facility
  let (shown, _) := facility.console.flush.2.drain
  let told := String.join (facility.diagnostics.map Diagnostic.line)
  { code := match result with
      | .ok () => 0
      | .error _ => 1
    console := transcript shown
    errors := match result with
      | .ok () => told
      | .error error => told ++ "Error: " ++ error.describe ++ "\n"
    entries := listing facility.disk }

end EventLog.Demo
