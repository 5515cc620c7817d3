import EventLog.Session.Basic
import EventLog.Session.Command

/-!
# Running commands

`Session.step` runs one command and gathers what it put out; `Session.run` runs a list of commands
from a fresh application. After each command the console is flushed, unless it is full.
-/

namespace EventLog.Session

/-- The view of a logger as a reply. -/
def replyLogger (l : LoggerId) : Step Reply := return .logger ((← get).loggerView l)

/-- Makes an appender of a kind. -/
def makeAppender (kind : AppenderKind) : Step (Except Error AppenderId) :=
  onFacility fun facility =>
    match kind with
    | .memory =>
      let (a, facility) := facility.newAppender (.memory [])
      (.ok a, facility)
    | .console painted =>
      let (a, facility) := facility.newAppender (.console { painted })
      (.ok a, facility)
    | .file path =>
      let (a, facility) := facility.newFileAppender path
      (.ok a, facility)
    | .openFile path => facility.openFileAppender path
    | .observer reaction flushFailure =>
      let (a, facility) := facility.newAppender (.observer { reaction, flushFailure })
      (.ok a, facility)

/-- Finds or makes an appender for a builder. -/
def builderAppender : BuilderAppender → Step AppenderId
  | .bound name => resolve Session.appenders name
  | .console pattern => do
    let a ← onFacility (·.newAppender (.console {}))
    if let some pattern := pattern then changeFacility (·.setAppenderPattern a pattern)
    return a

/-- Runs one action of a thread: its result, or the panic that ends the thread. -/
def runAction (t : ThreadId) : ThreadAction → Step (Except Panic ActionResult)
  | .showName => return .ok (.text (some ((← get).app.threads.state t).name))
  | .showThis => return .ok (.text (((← get).app.threads.this t).map (·.name)))
  | .compareNumber => do
    let threads := (← get).app.threads
    return .ok (.flag ((threads.this t).any (·.number == (threads.state t).number)))
  | .rename name => do
    changeApp fun p => { p with threads := p.threads.rename t name }
    return .ok .done
  | .showFiber => return .ok (.number ((← get).app.threads.state t).fiber)
  | .setFiber fiber => do
    changeApp fun p => { p with threads := p.threads.setFiber t fiber }
    return .ok .done
  | .log name level message => do
    let l ← resolve Session.loggers name
    changeApp fun p =>
      p.log l level ((p.capture t l level callSite).append message)
    return .ok .done
  | .logName name level => do
    let l ← resolve Session.loggers name
    changeApp fun p =>
      p.log l level ((p.capture t l level callSite).append
        ("name: " ++ (p.threads.state t).name))
    return .ok .done
  | .panic panic => return .error panic

/-- Runs the actions of a thread up to the first panic. -/
def runActions (t : ThreadId) : List ThreadAction → Step (List ActionResult × ThreadStatus)
  | [] => return ([], .returned)
  | action :: rest => do
    match ← runAction t action with
    | .error panic => return ([], .panicked panic)
    | .ok result =>
      let (results, status) ← runActions t rest
      return (result :: results, status)

/-- Joins a thread that has ended. -/
def joinThread (handle : ThreadHandle) : Step (Except Error Unit × ThreadHandle) :=
  modifyGet fun s =>
    match s.app.join caller handle with
    | some (result, handle, app) => ((result, handle), { s with app })
    | none => ((.ok (), handle), s)

/-- Starts a thread, runs its actions and joins it twice. -/
def runThread (name : String) (actions : List ThreadAction) : Step Reply := do
  let started ← modifyGet fun s =>
    let (result, app) := s.app.spawn caller name
    (result, { s with app })
  match started with
  | .error error => return .failed error
  | .ok handle =>
    let (seen, status) ← runActions handle.thread actions
    changeApp fun p => { p with threads := p.threads.finish handle.thread status }
    let (join, handle) ← joinThread handle
    let (joinAgain, handle) ← joinThread handle
    let threads := (← get).app.threads
    let info := threads.infoOf handle
    return .thread {
      seen, join, joinAgain
      name := info.name
      infoName := info.name
      numberIsPositive := 0 < info.number
      numberIsChilds := info.number == (threads.state handle.thread).number
      infoNumberIsSame := info.number == (threads.infoOf handle).number
      numberIsCallers := info.number == (threads.state caller).number
      description := handle.describe info "ID" }

/-- Runs a call of counters once. -/
def MetricsCall.run (call : MetricsCall) (m : Metrics) : CallResult × Metrics :=
  match call with
  | .written => (.none, m.recordWritten)
  | .failed =>
    let (before, m) := m.recordFailed
    (.count before, m)
  | .firstFailure =>
    let (first, m) := m.recordFirstFailure
    (.first first, m)
  | .reset => (.none, {})
  | .none => (.none, m)

/-- Runs a call of counters some number of times; the result is that of the last. -/
def MetricsCall.repeat (call : MetricsCall) : Nat → CallResult × Metrics → CallResult × Metrics
  | 0, state => state
  | n + 1, state => MetricsCall.repeat call n (call.run state.2)

/-- Binds a wrap. One that the name was bound to is dropped. -/
def bindWrap (name : String) (w : Wrap) : Step Reply := do
  let old := (← get).wraps.find? name
  modify fun s => { s with wraps := s.wraps.insert name w }
  if let some old := old then changeApp fun p => (p.dropWrap old).2
  return .ok

/-- Drops a wrap, which delivers its event. -/
def dropWrap (name : String) : Step Unit := do
  let w ← resolve Session.wraps name
  modify fun s => { s with wraps := Names.erase name s.wraps }
  changeApp fun p => (p.dropWrap w).2

/-- A result of the disk as a reply. -/
def replyFault : Except Fault Unit → Reply
  | .ok () => .ok
  | .error fault => .failed (.io fault)

/-- Runs a command. -/
def execute : Command → Step Reply
  -- Loggers.
  | .newLogger name loggerName => do
    let l ← onFacility (·.newLogger loggerName)
    bindLogger name l
    replyLogger l
  | .buildLogger name loggerName level pattern appenders => do
    let builder : LoggerBuilder := { name := loggerName }
    let builder := (level.map builder.minLevel).getD builder
    let builder := (pattern.map builder.withPattern).getD builder
    let appenders ← appenders.mapM builderAppender
    let l ← onFacility (·.build (appenders.foldl LoggerBuilder.withAppender builder))
    bindLogger name l
    replyLogger l
  | .buildConfig name document =>
    match Config.LoggerConfig.decode document with
    | .error error => return .rejected error
    | .ok config => do
      match ← onFacility (·.buildLogger config) with
      | .error error => return .failed error
      | .ok l =>
        bindLogger name l
        replyLogger l
  | .showLogger logger => do replyLogger (← resolve Session.loggers logger)
  | .describeLogger logger => do
    let l ← resolve Session.loggers logger
    return .text (some ((← get).loggerLine l))
  | .setLevel logger level => do
    let l ← resolve Session.loggers logger
    changeFacility (·.setLevel l level)
    return .ok
  | .setPattern logger pattern => do
    let l ← resolve Session.loggers logger
    return .ofResult (← onFacility (·.setPattern l pattern))
  | .setLayout logger layout => do
    let l ← resolve Session.loggers logger
    let layout ← resolve Session.layouts layout
    changeFacility (·.setLayout l layout)
    return .ok
  | .flushLogger logger => do
    let l ← resolve Session.loggers logger
    return .ofResult (← onFacility (·.flush l))
  | .addAppender logger appender => do
    let l ← resolve Session.loggers logger
    let a ← resolve Session.appenders appender
    changeFacility (·.addAppender l a)
    replyLogger l
  | .delAppender logger appender => do
    let l ← resolve Session.loggers logger
    let a ← resolve Session.appenders appender
    changeFacility (·.delAppender l a)
    replyLogger l
  | .clearAppenders logger => do
    let l ← resolve Session.loggers logger
    changeFacility (·.clearAppenders l)
    replyLogger l
  -- Logging.
  | .log logger owner level draft => do
    let l ← resolve Session.loggers logger
    let owner ← resolve Session.loggers owner
    changeApp (·.log l level (draft.toEvent owner))
    return .ok
  | .shorthand logger level message => do
    let l ← resolve Session.loggers logger
    changeApp (·.shorthand caller l level callSite [.text message])
    return .ok
  | .streamed logger level message => do
    let l ← resolve Session.loggers logger
    changeApp (·.streamed caller l level callSite message)
    return .ok
  -- Layouts and appenders.
  | .newLayout name pattern => do
    let shared ← onFacility (·.compile pattern)
    modify fun s => { s with layouts := s.layouts.insert name shared }
    return .layout shared.layout
  | .newAppender name kind level pattern => do
    match ← makeAppender kind with
    | .error error => return .failed error
    | .ok a =>
      if let some pattern := pattern then changeFacility (·.setAppenderPattern a pattern)
      if let some level := level then changeFacility (·.setAppenderLevel a level)
      modify fun s =>
        { s with
          appenders := s.appenders.insert name a
          answered := s.answered.insert name 0 }
      return .appender ((← get).appenderView a)
  | .showAppender appender => do
    let a ← resolve Session.appenders appender
    return .appender ((← get).appenderView a)
  | .showLines appender => do
    let a ← resolve Session.appenders appender
    return .texts ((← get).app.facility.appender a).sink.lines
  | .take appender => do
    let a ← resolve Session.appenders appender
    return .texts (← onFacility (·.take a))
  | .flushAppender appender => do
    let a ← resolve Session.appenders appender
    return .ofResult (← onFacility (·.flushAppender a))
  | .dropAppender appender => do
    let _ ← resolve Session.appenders appender
    modify fun s => { s with appenders := Names.erase appender s.appenders }
    return .ok
  | .logTo appender logger level draft => do
    let a ← resolve Session.appenders appender
    let l ← resolve Session.loggers logger
    changeFacility (·.logTo a l level (draft.toEvent l))
    return .ok
  | .setAppenderLevel appender level => do
    let a ← resolve Session.appenders appender
    changeFacility (·.setAppenderLevel a level)
    return .ok
  | .setAppenderLayout appender layout => do
    let a ← resolve Session.appenders appender
    let layout ← resolve Session.layouts layout
    changeFacility (·.setAppenderLayout a layout)
    return .ok
  | .reopen appender => do
    let a ← resolve Session.appenders appender
    match ← onFacility (·.reopen a) with
    | .ok () => return .flag true
    | .error _ => return .flag false
  | .tryReopen appender => do
    let a ← resolve Session.appenders appender
    return .ofResult (← onFacility (·.reopen a))
  | .resetMetrics appender => do
    let a ← resolve Session.appenders appender
    changeFacility (·.resetMetrics a)
    return .ok
  | .setColoring on => do
    changeFacility fun facility => { facility with coloring := on }
    return .ok
  | .setConsoleFull on => do
    changeFacility fun facility => { facility with console := facility.console.setFull on }
    return .ok
  -- Registries.
  | .newRegistry name => do
    let r ← onFacility Registry.new
    modify fun s => { s with registries := s.registries.insert name r }
    replyLogger r.root
  | .lookup registry loggerName bind => do
    let r ← resolveRegistry registry
    let l := r.get loggerName
    let ref := (← get).loggerRef l
    bindLogger? bind (some l)
    return .found ref (l = r.root)
  | .showRoot registry bind => do
    let r ← resolveRegistry registry
    let ref := (← get).loggerRef r.root
    bindLogger? bind (some r.root)
    return .reference (some ref)
  | .contains registry loggerName => return .flag ((← resolveRegistry registry).contains loggerName)
  | .showNames registry => return .texts (← resolveRegistry registry).names
  | .register registry logger bind => do
    let r ← resolveRegistry registry
    let l ← resolve Session.loggers logger
    let (replaced, r) := r.add l (← get).app.facility
    putRegistry registry r
    let ref := replaced.map (← get).loggerRef
    bindLogger? bind replaced
    return .reference ref
  | .unregister registry loggerName bind => do
    let r ← resolveRegistry registry
    let (removed, r) := r.remove loggerName
    putRegistry registry r
    let ref := removed.map (← get).loggerRef
    bindLogger? bind removed
    return .reference ref
  | .applyConfigs registry document =>
    match Config.decodeSequence Config.LoggerConfig.decode document with
    | .error error => return .rejected error
    | .ok configs => do
      let r ← resolveRegistry registry
      let (result, r) ← onFacility fun facility =>
        let (result, facility, r) := r.apply configs facility
        ((result, r), facility)
      putRegistry registry r
      return .ofResult result
  -- Events and wraps.
  | .newEvent name logger draft => do
    let e := draft.toEvent (← resolve Session.loggers logger)
    modify fun s => { s with events := s.events.insert name e }
    return .event ((← get).eventView e)
  | .capture name logger level site => do
    let l ← resolve Session.loggers logger
    let p := (← get).app
    let e := p.capture caller l level site
    modify fun s => { s with events := s.events.insert name e }
    return .captured {
      view := (← get).eventView e
      numberIsCurrent := e.stamp.thread == (p.threads.state caller).number
      elapseInRange := p.clock.elapse ≤ e.stamp.elapse && e.stamp.elapse ≤ p.clock.elapse
      timeInRange := p.clock.time ≤ e.stamp.time && e.stamp.time ≤ p.clock.time }
  | .showEvent event => do
    let e ← resolve Session.events event
    return .event ((← get).eventView e)
  | .describeEvent event => do
    let e ← resolve Session.events event
    return .text (some ((← get).eventLine e))
  | .writeEvent event addition => do
    let e := addition.apply (← resolve Session.events event)
    modify fun s => { s with events := s.events.insert event e }
    return .text (some e.message)
  | .logEvent event logger level => do
    let e ← resolve Session.events event
    let l ← resolve Session.loggers logger
    changeApp (·.log l level e)
    return .ok
  | .wrapEvent name event => do
    let e ← resolve Session.events event
    modify fun s => { s with events := Names.erase event s.events }
    bindWrap name (.new e)
  | .wrapNew name logger draft => do
    bindWrap name (.new (draft.toEvent (← resolve Session.loggers logger)))
  | .writeWrap wrap addition => do
    let w := (← resolve Session.wraps wrap).change addition.apply
    modify fun s => { s with wraps := s.wraps.insert wrap w }
    return .text (some w.content)
  | .dropWrap wrap => do
    dropWrap wrap
    return .ok
  | .unwindWrap wrap text => do
    let w ← resolve Session.wraps wrap
    modify fun s => { s with wraps := s.wraps.insert wrap (w.change (·.append text)) }
    dropWrap wrap
    return .panicked
  -- Threads.
  | .showFiber => return .number ((← get).app.threads.state caller).fiber
  | .setFiber fiber => do
    changeApp fun p => { p with threads := p.threads.setFiber caller fiber }
    return .ok
  | .showThreadName => return .text (some ((← get).app.threads.state caller).name)
  | .renameThread name => do
    changeApp fun p => { p with threads := p.threads.rename caller name }
    return .ok
  | .showThis => return .text (((← get).app.threads.this caller).map (·.name))
  | .runThread name actions => runThread name actions
  -- Counters and files.
  | .countMetrics name call times => do
    let m := ((← get).metrics.find? name).getD {}
    let (last, m) := call.repeat times (.none, m)
    modify fun s => { s with metrics := s.metrics.insert name m }
    return .metrics m last
  | .showFile path => return .text ((← get).app.facility.disk.readText path)
  | .writeFile path text => return replyFault (← onDisk (·.writeText path text))
  | .removeFile path => return replyFault (← onDisk (·.removeFile path))
  | .renameFile path newPath => return replyFault (← onDisk (·.rename path newPath))
  | .makeFolder path => return replyFault (← onDisk (·.makeFolder path))
  | .removeFolder path => return replyFault (← onDisk (·.removeFolder path))

/-- The lines of an appender that have not been answered. -/
def newLines (s : Session) (name : String) (a : AppenderId) : List String :=
  (s.app.facility.appender a).sink.lines.drop ((s.answered.find? name).getD 0)

/-- Gathers what has been put out since the last time. -/
def collect (s : Session) (reply : Reply) : Answer × Session :=
  let lines := s.appenders.map fun (name, a) => (name, s.newLines name a)
  let answered := s.appenders.foldl
    (fun table (name, a) =>
      Names.insert name (s.app.facility.appender a).sink.lines.length table) s.answered
  let facility := s.app.facility
  let console :=
    if facility.console.terminal.full then facility.console else facility.console.flush.2
  let (shown, console) := console.drain
  ({ reply
     lines := lines.filter fun (_, new) => !new.isEmpty
     console := shown
     errors := String.join (facility.diagnostics.map Diagnostic.line) },
   { s with
     app := { s.app with facility := { facility with console, diagnostics := [] } }
     answered })

/-- Runs one command. A name that is bound to nothing leaves the session as it was. -/
def step (s : Session) (command : Command) : Answer × Session :=
  match (execute command).run s with
  | .ok (reply, s) => s.collect reply
  | .error name => s.collect (.unbound name)

/-- The session that commands start from, in a zone. -/
def initial (east : Int) : Session := { app := .initial east }

/-- The answers to commands run in order. -/
def run (s : Session) : List Command → List Answer
  | [] => []
  | command :: rest =>
    let (answer, s) := s.step command
    answer :: run s rest

end EventLog.Session
