import EventLog.Facility.Log

/-!
# What happens during a call of a logger

A `Trace` tells what appenders do while a logger fans an event out: which are called, the actions
that they take, and the calls of loggers nested in these. `logTraced` runs a call as `logWithin`
does, in the same facilities, and gives its trace along with what it leaves.

In time a trace is a list of moments (`Trace.timeline`): the actions of all appenders, and the
starts of all calls of loggers, each with the appenders that the call went on to call.
-/

namespace EventLog

/-- What happens, one thing after the other. A call of an appender and a call of a logger hold what
happens until they return. -/
inductive Trace where
  | done
  | act (action : Action) (rest : Trace)
  | visit (a : AppenderId) (inner rest : Trace)
  | call (l : LoggerId) (level : Level) (event : Event) (inner rest : Trace)

/-- What an action leaves; a call of a logger is no matter of one action. -/
def Action.effect (s : Facility) : Action → Facility
  | count a => s.countCall a
  | deposit a l level event => s.deposit a l level event
  | log _ _ _ => s
  | addAppender l a => s.addAppender l a
  | delAppender l a => s.delAppender l a
  | clearAppenders l => s.clearAppenders l
  | setLevel l level => s.setLevel l level
  | alter change => change s

/-! ## Calls that tell their trace -/

/-- A call of a logger, as far as it returns, with its trace. -/
abbrev NestedTraced := LoggerId → Level → Event → Facility → Option (Trace × Facility)

/-- Takes one action: its entry in a trace, and what it leaves. -/
def Action.traced (nested : NestedTraced) (s : Facility) :
    Action → Option ((Trace → Trace) × Facility)
  | log l level event => do
    let (inner, t) ← nested l level event s
    return (.call l level event inner, t)
  | action => some (.act action, action.effect s)

/-- Runs the actions of a script in order. -/
def Script.traced (nested : NestedTraced) : Script → Facility → Option (Trace × Facility)
  | done, s => some (.done, s)
  | step action next, s => do
    let (entry, t) ← action.traced nested s
    let (rest, u) ← (next t).traced nested t
    return (entry rest, u)

/-- Calls appenders in order. -/
def fanOutTraced (behavior : Behavior) (nested : NestedTraced) (l : LoggerId) (level : Level)
    (event : Event) : List AppenderId → Facility → Option (Trace × Facility)
  | [], s => some (.done, s)
  | a :: rest, s => do
    let (inner, t) ← (behavior a l level event s).traced nested s
    let (later, u) ← fanOutTraced behavior nested l level event rest t
    return (.visit a inner later, u)

/-- A call of a logger with calls nested below the given depth. -/
def logTraced (behavior : Behavior) : Nat → NestedTraced
  | 0, _, _, _, _ => none
  | depth + 1, l, level, event, s =>
    if level < (s.logger l).level then some (.done, s)
    else
      fanOutTraced behavior (logTraced behavior depth) l level event (s.logger l).appenders s

section

variable {nested : NestedTraced} {s t u : Facility} {trace : Trace}

theorem Action.traced_log {l : LoggerId} {level : Level} {event : Event} {entry : Trace → Trace} :
    (log l level event).traced nested s = some (entry, t) ↔
      ∃ inner, nested l level event s = some (inner, t) ∧ entry = .call l level event inner := by
  simp [traced, Option.bind_eq_some_iff, @eq_comm _ entry]

theorem Script.traced_step {action : Action} {next : Facility → Script} :
    (step action next).traced nested s = some (trace, u) ↔
      ∃ entry t rest, action.traced nested s = some (entry, t) ∧
        (next t).traced nested t = some (rest, u) ∧ trace = entry rest := by
  simp [traced, Option.bind_eq_some_iff, @eq_comm _ trace]

theorem fanOutTraced_cons {behavior : Behavior} {l : LoggerId} {level : Level} {event : Event}
    {a : AppenderId} {rest : List AppenderId} :
    fanOutTraced behavior nested l level event (a :: rest) s = some (trace, u) ↔
      ∃ inner t later, (behavior a l level event s).traced nested s = some (inner, t) ∧
        fanOutTraced behavior nested l level event rest t = some (later, u) ∧
        trace = .visit a inner later := by
  simp [fanOutTraced, Option.bind_eq_some_iff, @eq_comm _ trace]

end

/-! ## Reading a trace -/

/-- The appenders that are called one after the other, whatever happens meanwhile. -/
def Trace.visited : Trace → List AppenderId
  | done => []
  | act _ rest => rest.visited
  | visit a _ rest => a :: rest.visited
  | call _ _ _ _ rest => rest.visited

/-- One point in time. -/
inductive Moment where
  | act (action : Action)
  /-- A call of a logger starts, which will call these appenders. -/
  | start (l : LoggerId) (level : Level) (event : Event) (visited : List AppenderId)

/-- What a moment leaves. -/
def Moment.effect (s : Facility) : Moment → Facility
  | act action => action.effect s
  | start _ _ _ _ => s

/-- The appenders that the call goes on to call, if one starts. -/
def Moment.visited? : Moment → Option (List AppenderId)
  | act _ => none
  | start _ _ _ visited => some visited

/-- The moments of a trace in the order of time. -/
def Trace.timeline : Trace → List Moment
  | done => []
  | act action rest => .act action :: rest.timeline
  | visit _ inner rest => inner.timeline ++ rest.timeline
  | call l level event inner rest =>
    .start l level event inner.visited :: (inner.timeline ++ rest.timeline)

/-- The appenders that the calls of loggers in a trace call, one list for each call, in the order in
which the calls start. -/
def Trace.fans (trace : Trace) : List (List AppenderId) := trace.timeline.filterMap (·.visited?)

@[simp] theorem Trace.fans_done : done.fans = [] := rfl

@[simp] theorem Trace.fans_act (action : Action) (rest : Trace) :
    (act action rest).fans = rest.fans := rfl

@[simp] theorem Trace.fans_visit (a : AppenderId) (inner rest : Trace) :
    (visit a inner rest).fans = inner.fans ++ rest.fans :=
  List.filterMap_append

@[simp] theorem Trace.fans_call (l : LoggerId) (level : Level) (event : Event)
    (inner rest : Trace) :
    (call l level event inner rest).fans = inner.visited :: (inner.fans ++ rest.fans) :=
  congrArg (inner.visited :: ·) List.filterMap_append

namespace Facility

/-- What some moments leave, one after the other. -/
def elapse (s : Facility) (moments : List Moment) : Facility := moments.foldl Moment.effect s

/-- The appenders that an event is for when it is logged now: those of the list, if the gate lets
the level pass. -/
def addressees (s : Facility) (l : LoggerId) (level : Level) : List AppenderId :=
  if level < (s.logger l).level then [] else (s.logger l).appenders

end Facility

end EventLog
