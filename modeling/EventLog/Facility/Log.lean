import EventLog.Facility.Basic

/-!
# How an event travels

A logger that is called with a level at or above its gate calls each appender of its list, as the
list is when the call starts. What an appender then does is a `Script`: actions, each chosen in view
of the state that the one before left, among them calls of loggers. `logWithin` runs a call to a
given depth of nesting for any scripts at all, and gives nothing where the depth does not suffice.

The appenders of this library nest at most once, because a copy that an echoing observer logs is
marked and never copied again (`isSome_logWithin_script`). So `Facility.log` is total.
-/

namespace EventLog

/-! ## Scripts -/

/-- One thing that an appender does when it is called. -/
inductive Action where
  /-- Counts the call. -/
  | count (a : AppenderId)
  /-- Renders the event, if it passes the gate of the appender, and puts it into the sink. -/
  | deposit (a : AppenderId) (l : LoggerId) (level : Level) (event : Event)
  | log (l : LoggerId) (level : Level) (event : Event)
  | addAppender (l : LoggerId) (a : AppenderId)
  | delAppender (l : LoggerId) (a : AppenderId)
  | clearAppenders (l : LoggerId)
  | setLevel (l : LoggerId) (level : Level)
  /-- Anything else that an appender supplied from outside does, to itself or to what is around it. -/
  | alter (change : Facility → Facility)

/-- Actions in order, each chosen in view of the state so far. -/
inductive Script where
  | done
  | step (action : Action) (next : Facility → Script)

namespace Facility

/-- Puts a rendered event into the sink of an appender. -/
def emit (a : AppenderId) (level : Level) (text : String) (s : Facility) : Facility :=
  match (s.appender a).sink with
  | .memory lines => s.setSink a (.memory (lines ++ [text]))
  | .console sink =>
    let shown := if sink.painted && s.coloring then Output.paint level.color text else text
    let (diagnostic, sink, console) := sink.log shown s.console
    ({ s with console }.setSink a (.console sink)).tell diagnostic
  | .file file =>
    let (diagnostic, file, disk) := file.log Output.Disk.volume text s.disk
    ({ s with disk }.setSink a (.file file)).tell diagnostic
  | .observer o =>
    let kept := if o.reaction = .upperCase then Text.upper text else text
    s.setSink a (.observer { o with lines := o.lines ++ [kept] })

/-- Renders an event and puts it into the sink, unless the level is below the appender's gate. -/
def deposit (a : AppenderId) (l : LoggerId) (level : Level) (event : Event) (s : Facility) :
    Facility :=
  match (s.appender a).render s.east (s.logger l) level event with
  | none => s
  | some text => s.emit a level text

/-- Counts a call of an observer. -/
def countCall (a : AppenderId) (s : Facility) : Facility :=
  match (s.appender a).sink with
  | .observer o => s.setSink a (.observer { o with calls := o.calls + 1 })
  | _ => s

end Facility

/-- A call of a logger, as far as it returns. -/
abbrev Nested := LoggerId → Level → Event → Facility → Option Facility

/-- What an action leaves, given how nested calls of loggers run. -/
def Action.perform (nested : Nested) (s : Facility) : Action → Option Facility
  | count a => some (s.countCall a)
  | deposit a l level event => some (s.deposit a l level event)
  | log l level event => nested l level event s
  | addAppender l a => some (s.addAppender l a)
  | delAppender l a => some (s.delAppender l a)
  | clearAppenders l => some (s.clearAppenders l)
  | setLevel l level => some (s.setLevel l level)
  | alter change => some (change s)

/-- Runs the actions of a script in order. -/
def Script.run (nested : Nested) : Script → Facility → Option Facility
  | done, s => some s
  | step action next, s =>
    match action.perform nested s with
    | none => none
    | some s => (next s).run nested s

/-- What each appender does when a logger calls it. -/
abbrev Behavior := AppenderId → LoggerId → Level → Event → Facility → Script

/-- Calls appenders in order. -/
def fanOut (behavior : Behavior) (nested : Nested) (l : LoggerId) (level : Level) (event : Event) :
    List AppenderId → Facility → Option Facility
  | [], s => some s
  | a :: rest, s =>
    match (behavior a l level event s).run nested s with
    | none => none
    | some s => fanOut behavior nested l level event rest s

/-- A call of a logger with calls nested below the given depth: nothing if the level is below the
gate, else a call of each appender of the list as it is now. -/
def logWithin (behavior : Behavior) : Nat → Nested
  | 0, _, _, _, _ => none
  | depth + 1, l, level, event, s =>
    if level < (s.logger l).level then some s
    else fanOut behavior (logWithin behavior depth) l level event (s.logger l).appenders s

/-! ## The appenders of this library -/

/-- What the copies made by an echoing observer start with. -/
def echoMark : String := "echo:"

/-- Whether the message of an event starts with the mark of a copy. -/
def Event.isEcho (e : Event) : Bool := echoMark.toList.isPrefixOf e.message.toList

/-- The marked copy of an event. -/
def Event.echo (e : Event) : Event := { e with message := echoMark ++ e.message }

theorem Event.isEcho_echo (e : Event) : e.echo.isEcho = true := by
  simp only [isEcho, echo, String.toList_append, List.isPrefixOf_iff_prefix]
  exact List.prefix_append ..

/-- Counts the call and keeps the event, before the rest of a script. -/
def Script.keep (a : AppenderId) (l : LoggerId) (level : Level) (event : Event) (rest : Script) :
    Script :=
  .step (.count a) fun _ => .step (.deposit a l level event) fun _ => rest

/-- What an observer does when a logger calls it. -/
def Reaction.script (a : AppenderId) (l : LoggerId) (level : Level) (event : Event) :
    Reaction → Script
  | keep | upperCase => .keep a l level event .done
  | echo =>
    if event.isEcho then .keep a l level event .done
    else .step (.log l level event.echo) fun _ => .keep a l level event .done
  | clear => .keep a l level event (.step (.clearAppenders l) fun _ => .done)
  | raise => .keep a l level event (.step (.setLevel l .fatal) fun _ => .done)

/-- What an appender does when a logger calls it. -/
def Sink.script (a : AppenderId) (l : LoggerId) (level : Level) (event : Event) : Sink → Script
  | observer o => o.reaction.script a l level event
  | _ => .step (.deposit a l level event) fun _ => .done

/-- The behavior of the appenders of this library. -/
def appenderScript : Behavior := fun a l level event s =>
  (s.appender a).sink.script a l level event

/-- Every action of a script satisfies a condition. -/
def Script.Takes (P : Action → Prop) : Script → Prop
  | done => True
  | step action next => P action ∧ ∀ s, (next s).Takes P

/-- An action of one of the kinds that the appenders of this library take. -/
def Action.IsOrdinary (action : Action) : Prop := ∀ change, action ≠ .alter change

theorem takes_appenderScript (a : AppenderId) (l : LoggerId) (level : Level) (event : Event)
    (s : Facility) : (appenderScript a l level event s).Takes Action.IsOrdinary := by
  unfold appenderScript Sink.script
  split
  · next o _ =>
    cases o.reaction <;> simp only [Reaction.script]
    case echo => split <;> simp [Script.keep, Script.Takes, Action.IsOrdinary]
    all_goals simp [Script.keep, Script.Takes, Action.IsOrdinary]
  · simp [Script.Takes, Action.IsOrdinary]

/-- The events of all calls of loggers in a script satisfy a condition. -/
def Script.Nests (P : Event → Prop) : Script → Prop
  | done => True
  | step action next =>
    (match action with
      | .log _ _ event => P event
      | _ => True) ∧ ∀ s, (next s).Nests P

theorem Script.isSome_run {P : Event → Prop} {nested : Nested}
    (h : ∀ l level event s, P event → (nested l level event s).isSome) :
    ∀ (script : Script) (s : Facility), script.Nests P → (script.run nested s).isSome := by
  intro script
  induction script with
  | done => intro s _; rfl
  | step action next ih =>
    intro s hs
    have hp : (action.perform nested s).isSome := by
      cases action <;> first | rfl | exact h _ _ _ _ hs.1
    obtain ⟨t, ht⟩ := Option.isSome_iff_exists.1 hp
    simp only [run, ht]
    exact ih t t (hs.2 t)

theorem isSome_fanOut {P : Event → Prop} {behavior : Behavior} {nested : Nested} {l : LoggerId}
    {level : Level} {event : Event}
    (hb : ∀ a s, (behavior a l level event s).Nests P)
    (h : ∀ l level event s, P event → (nested l level event s).isSome)
    (appenders : List AppenderId) (s : Facility) :
    (fanOut behavior nested l level event appenders s).isSome := by
  induction appenders generalizing s with
  | nil => rfl
  | cons a rest ih =>
    obtain ⟨t, ht⟩ := Option.isSome_iff_exists.1 (Script.isSome_run h _ s (hb a s))
    simp only [fanOut, ht]
    exact ih t

/-- The calls nested in a script of this library are made with marked events, and there are none for
a marked event. -/
theorem nests_appenderScript (a : AppenderId) (l : LoggerId) (level : Level) (event : Event)
    (s : Facility) :
    (appenderScript a l level event s).Nests fun e => e.isEcho = true ∧ event.isEcho = false := by
  unfold appenderScript Sink.script
  split
  · next o _ =>
    cases o.reaction <;> simp only [Reaction.script]
    case echo =>
      split
      · simp [Script.keep, Script.Nests]
      · next h => simp [Script.keep, Script.Nests, Event.isEcho_echo, h]
    all_goals simp [Script.keep, Script.Nests]
  · simp [Script.Nests]

/-- A call with a marked event returns without nesting. -/
theorem isSome_logWithin_of_isEcho {event : Event} (h : event.isEcho = true) (depth : Nat)
    (l : LoggerId) (level : Level) (s : Facility) :
    (logWithin appenderScript (depth + 1) l level event s).isSome := by
  simp only [logWithin]
  split
  · rfl
  · refine isSome_fanOut (nests_appenderScript · l level event) ?_ _ s
    intro _ _ _ _ hne
    rw [h] at hne
    exact absurd hne.2 (by decide)

/-- A call of a logger of this library returns with one level of nesting. -/
theorem isSome_logWithin_script (depth : Nat) (l : LoggerId) (level : Level) (event : Event)
    (s : Facility) : (logWithin appenderScript (depth + 2) l level event s).isSome := by
  rw [logWithin]
  split
  · rfl
  · exact isSome_fanOut (nests_appenderScript · l level event)
      (fun l level event s h => isSome_logWithin_of_isEcho h.1 depth l level s) _ s

/-- A call of an appender of this library returns with one level of nesting. -/
theorem isSome_run_appenderScript (depth : Nat) (a : AppenderId) (l : LoggerId) (level : Level)
    (event : Event) (s : Facility) :
    ((appenderScript a l level event s).run (logWithin appenderScript (depth + 1)) s).isSome :=
  Script.isSome_run (fun l level _ s h => isSome_logWithin_of_isEcho h.1 depth l level s) _ s
    (nests_appenderScript a l level event s)

namespace Facility

/-- Logs an event through a logger at a level. -/
def log (l : LoggerId) (level : Level) (event : Event) (s : Facility) : Facility :=
  (logWithin appenderScript 2 l level event s).get (isSome_logWithin_script 0 l level event s)

/-- Calls an appender directly, past the gate of the logger. -/
def logTo (a : AppenderId) (l : LoggerId) (level : Level) (event : Event) (s : Facility) :
    Facility :=
  ((appenderScript a l level event s).run (logWithin appenderScript 1) s).get
    (isSome_run_appenderScript 0 a l level event s)

/-- An event below the gate of the logger is dropped without a trace. -/
theorem log_of_lt {l : LoggerId} {level : Level} {s : Facility} (h : level < (s.logger l).level)
    (event : Event) : s.log l level event = s := by
  simp [log, logWithin, h]

end Facility

end EventLog
