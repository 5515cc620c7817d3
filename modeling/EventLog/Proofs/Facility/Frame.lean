import EventLog.Facility.Operation

/-!
# What an operation leaves alone

Every operation on loggers and appenders changes few parts of the facility. `SameSetup` says that two
facilities agree on everything but sinks and surroundings: loggers, levels, layouts, and the zone.
`Writes` is what anything does that puts events into the sink of one appender, flushes it or opens it
again: it keeps the setup and every other sink, and lets observers react as before.

An event is shown and let through in the same way by facilities that agree on less: `ShowsLike` leaves
out the levels and the appender lists of loggers, which an observer may change while it is called.
-/

namespace EventLog

/-- What an observer does besides keeping events; nothing for the sinks of this library. -/
def Sink.reaction? : Sink → Option Reaction
  | observer o => some o.reaction
  | _ => none

namespace Facility

/-! ## One object after a change of one -/

theorem appender_modifyAppender (s : Facility) (a b : AppenderId) (change : Appender → Appender) :
    (s.modifyAppender a change).appender b =
      if b = a ∧ a.index < s.appenders.size then change (s.appender b) else s.appender b := by
  simp only [AppenderId.ext_iff]
  exact Store.get_modify s.appenders a.index b.index change

theorem appender_modifyAppender_self {s : Facility} {a : AppenderId}
    (ha : a.index < s.appenders.size) (change : Appender → Appender) :
    (s.modifyAppender a change).appender a = change (s.appender a) := by
  rw [appender_modifyAppender, if_pos ⟨rfl, ha⟩]

theorem appender_modifyAppender_of_ne {a b : AppenderId} (h : b ≠ a) (s : Facility)
    (change : Appender → Appender) :
    (s.modifyAppender a change).appender b = s.appender b := by
  rw [appender_modifyAppender, if_neg fun hand => h hand.1]

/-- A change that keeps some part of an appender keeps that part of all of them. -/
theorem appender_modifyAppender_of_keeps {β : Type} (part : Appender → β) {change : Appender → Appender}
    (h : ∀ entry, part (change entry) = part entry) (s : Facility) (a b : AppenderId) :
    part ((s.modifyAppender a change).appender b) = part (s.appender b) :=
  Store.get_modify_of_keeps part s.appenders a.index b.index h

theorem logger_modifyLogger (s : Facility) (l k : LoggerId) (change : Logger → Logger) :
    (s.modifyLogger l change).logger k =
      if k = l ∧ l.index < s.loggers.size then change (s.logger k) else s.logger k := by
  simp only [LoggerId.ext_iff]
  exact Store.get_modify s.loggers l.index k.index change

theorem logger_modifyLogger_self {s : Facility} {l : LoggerId} (hl : l.index < s.loggers.size)
    (change : Logger → Logger) : (s.modifyLogger l change).logger l = change (s.logger l) := by
  rw [logger_modifyLogger, if_pos ⟨rfl, hl⟩]

theorem logger_modifyLogger_of_ne {l k : LoggerId} (h : k ≠ l) (s : Facility)
    (change : Logger → Logger) : (s.modifyLogger l change).logger k = s.logger k := by
  rw [logger_modifyLogger, if_neg fun hand => h hand.1]

/-- A change that keeps some part of a logger keeps that part of all of them. -/
theorem logger_modifyLogger_of_keeps {β : Type} (part : Logger → β) {change : Logger → Logger}
    (h : ∀ entry, part (change entry) = part entry) (s : Facility) (l k : LoggerId) :
    part ((s.modifyLogger l change).logger k) = part (s.logger k) :=
  Store.get_modify_of_keeps part s.loggers l.index k.index h

@[simp] theorem appender_modifyLogger (s : Facility) (l : LoggerId) (change : Logger → Logger)
    (a : AppenderId) : (s.modifyLogger l change).appender a = s.appender a := rfl

@[simp] theorem size_modifyLogger (s : Facility) (l : LoggerId) (change : Logger → Logger) :
    (s.modifyLogger l change).loggers.size = s.loggers.size :=
  Store.size_modify s.loggers l.index change

@[simp] theorem size_modifyAppender (s : Facility) (a : AppenderId)
    (change : Appender → Appender) :
    (s.modifyAppender a change).appenders.size = s.appenders.size :=
  Store.size_modify s.appenders a.index change

theorem appender_newAppender (sink : Sink) (s : Facility) (b : AppenderId) :
    (s.newAppender sink).2.appender b =
      if b.index = s.appenders.size then { sink } else s.appender b :=
  Store.get_push s.appenders { sink } b.index

theorem logger_newLogger [Calendar] (name : String) (s : Facility) (l : LoggerId) :
    (s.newLogger name).2.logger l =
      if l.index = s.loggers.size then
        { name, layout := { stamp := s.nextStamp, layout := .compile Layout.defaultPattern } }
      else s.logger l :=
  Store.get_push s.loggers _ l.index

/-! ## What composite operations leave -/

theorem setPattern_snd [Calendar] (l : LoggerId) (pattern : String) (s : Facility) :
    (s.setPattern l pattern).2 =
      if (s.compile pattern).1.layout.hasError then (s.compile pattern).2
      else (s.compile pattern).2.setLayout l (s.compile pattern).1 := by
  by_cases h : (s.compile pattern).1.layout.hasError
  · simp only [setPattern, compileStrict, h, if_true]
  · simp only [setPattern, compileStrict, h, if_false, Bool.false_eq_true]

theorem openFileAppender_snd (path : String) (s : Facility) :
    (s.openFileAppender path).2 =
      ((s.newAppender (.file { path })).2.reopen (s.newAppender (.file { path })).1).2 := by
  unfold openFileAppender
  dsimp only
  split
  · next h => rw [h]
  · next h => rw [h]

theorem exists_newFileAppender_snd (path : String) (s : Facility) :
    ∃ diagnostic, (s.newFileAppender path).2 =
      ((s.newAppender (.file { path })).2.reopen (s.newAppender (.file { path })).1).2.tell
        diagnostic := by
  unfold newFileAppender
  dsimp only
  split
  · next t h =>
    refine ⟨none, ?_⟩
    rw [h, tell, Option.toList_none, List.append_nil]
  · next error t h =>
    refine ⟨some (.openFailed error), ?_⟩
    rw [h]

/-- What each flush of one appender does, flushing several in order does, whether a fault stops it
or not. -/
theorem flushAll_of_flushAppender {R : Facility → Facility → Prop} (hrefl : ∀ s, R s s)
    (htrans : ∀ {s t u}, R s t → R t u → R s u) (hone : ∀ s a, R s (s.flushAppender a).2)
    (s : Facility) (appenders : List AppenderId) : R s (flushAll appenders s).2 := by
  induction appenders generalizing s with
  | nil => exact hrefl s
  | cons a rest ih =>
    have hfirst := hone s a
    unfold flushAll
    split
    · next t ht =>
      rw [ht] at hfirst
      exact htrans hfirst (ih t)
    · next t ht =>
      rw [ht] at hfirst
      exact hfirst

/-! ## Agreement on everything but sinks and surroundings -/

/-- The second facility has the loggers of the first, and the levels and layouts of its appenders. -/
structure SameSetup (s t : Facility) : Prop where
  east : t.east = s.east
  loggers : t.loggers = s.loggers
  nextStamp : t.nextStamp = s.nextStamp
  size : t.appenders.size = s.appenders.size
  state : ∀ a, (t.appender a).toAppenderState = (s.appender a).toAppenderState

namespace SameSetup

theorem refl (s : Facility) : SameSetup s s := ⟨rfl, rfl, rfl, rfl, fun _ => rfl⟩

variable {s t u : Facility}

theorem symm (h : SameSetup s t) : SameSetup t s :=
  ⟨h.east.symm, h.loggers.symm, h.nextStamp.symm, h.size.symm, fun a => (h.state a).symm⟩

theorem trans (h : SameSetup s t) (h' : SameSetup t u) : SameSetup s u where
  east := h'.east.trans h.east
  loggers := h'.loggers.trans h.loggers
  nextStamp := h'.nextStamp.trans h.nextStamp
  size := h'.size.trans h.size
  state a := (h'.state a).trans (h.state a)

theorem logger (h : SameSetup s t) (l : LoggerId) : t.logger l = s.logger l := by
  rw [Facility.logger, Facility.logger, h.loggers]

/-- A change of one logger keeps facilities in agreement. -/
theorem modifyLogger (h : SameSetup s t) (l : LoggerId) (change : Logger → Logger) :
    SameSetup (s.modifyLogger l change) (t.modifyLogger l change) :=
  { h with loggers := congrArg (·.modify l.index change) h.loggers }

/-- A change of one appender keeps facilities in agreement if it changes equal states equally. -/
theorem modifyAppender (h : SameSetup s t) (a : AppenderId) {change : Appender → Appender}
    (hchange : ∀ x y : Appender, y.toAppenderState = x.toAppenderState →
      (change y).toAppenderState = (change x).toAppenderState) :
    SameSetup (s.modifyAppender a change) (t.modifyAppender a change) := by
  refine ⟨h.east, h.loggers, h.nextStamp, ?_, fun b => ?_⟩
  · rw [size_modifyAppender, size_modifyAppender, h.size]
  · rw [appender_modifyAppender, appender_modifyAppender, h.size]
    split
    · exact hchange _ _ (h.state b)
    · exact h.state b

theorem newAppender (h : SameSetup s t) (sink : Sink) :
    SameSetup (s.newAppender sink).2 (t.newAppender sink).2 := by
  refine ⟨h.east, h.loggers, h.nextStamp, ?_, fun b => ?_⟩
  · show (t.appenders.push _).size = (s.appenders.push _).size
    rw [Store.size_push, Store.size_push, h.size]
  · rw [appender_newAppender, appender_newAppender, h.size]
    split
    · rfl
    · exact h.state b

theorem tell (h : SameSetup s t) (diagnostic diagnostic' : Option Diagnostic) :
    SameSetup (s.tell diagnostic) (t.tell diagnostic') :=
  { h with }

/-- Facilities in agreement compile a pattern into one and the same layout. -/
theorem compile [Calendar] (h : SameSetup s t) (pattern : String) :
    (t.compile pattern).1 = (s.compile pattern).1 ∧
      SameSetup (s.compile pattern).2 (t.compile pattern).2 := by
  refine ⟨?_, { h.tell none none with nextStamp := congrArg (· + 1) h.nextStamp }⟩
  rw [Facility.compile, Facility.compile, h.nextStamp]

end SameSetup

/-! ## Writing through one appender -/

/-- The second facility comes from the first by what only the sink of one appender and the
surroundings may show. The sink stays of its kind. -/
structure Writes (a : AppenderId) (s t : Facility) : Prop extends SameSetup s t where
  reaction : ∀ b, (t.appender b).sink.reaction? = (s.appender b).sink.reaction?
  others : ∀ b, b ≠ a → (t.appender b).sink = (s.appender b).sink

theorem Writes.refl (a : AppenderId) (s : Facility) : Writes a s s :=
  { SameSetup.refl s with reaction := fun _ => rfl, others := fun _ _ => rfl }

theorem Writes.tell {a : AppenderId} {s t : Facility} (h : Writes a s t)
    (diagnostic : Option Diagnostic) : Writes a s (t.tell diagnostic) :=
  { h with }

/-- Another sink of the same kind, with any surroundings, is all that writing amounts to. -/
theorem writes_setSink {a : AppenderId} {s : Facility} (sink : Sink)
    (h : sink.reaction? = (s.appender a).sink.reaction?) (console : Output.Console)
    (disk : Output.Disk) (diagnostics : List Diagnostic) :
    Writes a s ({ s with console, disk, diagnostics }.setSink a sink) where
  east := rfl
  loggers := rfl
  nextStamp := rfl
  size := size_modifyAppender _ a _
  state b := by
    apply appender_modifyAppender_of_keeps Appender.toAppenderState
    intro _
    rfl
  reaction b := by
    rw [setSink, appender_modifyAppender]
    split
    · next hb =>
      rw [hb.1]
      exact h
    · rfl
  others b hb := congrArg Appender.sink (appender_modifyAppender_of_ne hb _ _)

section

variable (a : AppenderId) (s : Facility)

theorem writes_emit (level : Level) (text : String) : Writes a s (s.emit a level text) := by
  rw [emit]
  split
  · next h => exact writes_setSink (.memory _) (by simp [h, Sink.reaction?]) s.console s.disk s.diagnostics
  · next h =>
    dsimp only
    exact (writes_setSink (.console _) (by simp [h, Sink.reaction?]) _ s.disk s.diagnostics).tell _
  · next h =>
    dsimp only
    exact (writes_setSink (.file _) (by simp [h, Sink.reaction?]) s.console _ s.diagnostics).tell _
  · next h => exact writes_setSink (.observer _) (by simp [h, Sink.reaction?]) s.console s.disk s.diagnostics

theorem writes_deposit (l : LoggerId) (level : Level) (event : Event) :
    Writes a s (s.deposit a l level event) := by
  rw [deposit]
  split
  · exact .refl a s
  · exact writes_emit a s level _

theorem writes_countCall : Writes a s (s.countCall a) := by
  rw [countCall]
  split
  · next h => exact writes_setSink (.observer _) (by simp [h, Sink.reaction?]) s.console s.disk s.diagnostics
  · exact .refl a s

theorem writes_take : Writes a s (s.take a).2 := by
  rw [take]
  split
  · next h => exact writes_setSink (.memory _) (by simp [h, Sink.reaction?]) s.console s.disk s.diagnostics
  · exact .refl a s

theorem writes_resetMetrics : Writes a s (s.resetMetrics a) := by
  rw [resetMetrics]
  split
  · next h => exact writes_setSink (.console _) (by simp [h, Sink.reaction?]) s.console s.disk s.diagnostics
  · next h => exact writes_setSink (.file _) (by simp [h, Sink.reaction?]) s.console s.disk s.diagnostics
  · exact .refl a s

theorem writes_reopen : Writes a s (s.reopen a).2 := by
  rw [reopen]
  split
  · next h => exact writes_setSink (.file _) (by simp [h, Sink.reaction?]) s.console _ s.diagnostics
  · exact .refl a s

theorem writes_flushAppender : Writes a s (s.flushAppender a).2 := by
  rw [flushAppender]
  split
  · exact .refl a s
  · exact { Writes.refl a s with }
  · next h => exact writes_setSink (.file _) (by simp [h, Sink.reaction?]) s.console _ s.diagnostics
  · next h => exact writes_setSink (.observer _) (by simp [h, Sink.reaction?]) s.console s.disk s.diagnostics

end

/-! ## What a shown event depends on -/

/-- The second facility shows every event as the first does and lets it through the same appenders. -/
structure ShowsLike (s t : Facility) : Prop where
  east : t.east = s.east
  name : ∀ l, (t.logger l).name = (s.logger l).name
  loggerLayout : ∀ l, (t.logger l).layout = (s.logger l).layout
  size : t.appenders.size = s.appenders.size
  state : ∀ a, (t.appender a).toAppenderState = (s.appender a).toAppenderState

theorem SameSetup.showsLike {s t : Facility} (h : SameSetup s t) : ShowsLike s t where
  east := h.east
  name l := by rw [h.logger]
  loggerLayout l := by rw [h.logger]
  size := h.size
  state := h.state

namespace ShowsLike

variable {s t u : Facility}

theorem trans (h : ShowsLike s t) (h' : ShowsLike t u) : ShowsLike s u where
  east := h'.east.trans h.east
  name l := (h'.name l).trans (h.name l)
  loggerLayout l := (h'.loggerLayout l).trans (h.loggerLayout l)
  size := h'.size.trans h.size
  state a := (h'.state a).trans (h.state a)

theorem render (h : ShowsLike s t) (a : AppenderId) (l : LoggerId) (level : Level) (event : Event) :
    (t.appender a).render t.east (t.logger l) level event =
      (s.appender a).render s.east (s.logger l) level event := by
  rw [AppenderState.render, AppenderState.render, h.state a, h.loggerLayout l, h.east, h.name l]

end ShowsLike

/-- A change of a logger that keeps its name and its layout changes nothing that is shown. -/
theorem showsLike_modifyLogger (s : Facility) (l : LoggerId) {change : Logger → Logger}
    (hname : ∀ entry, (change entry).name = entry.name)
    (hlayout : ∀ entry, (change entry).layout = entry.layout) :
    ShowsLike s (s.modifyLogger l change) where
  east := rfl
  name k := logger_modifyLogger_of_keeps Logger.name hname s l k
  loggerLayout k := logger_modifyLogger_of_keeps Logger.layout hlayout s l k
  size := rfl
  state _ := rfl

end Facility

/-- No item shows the logger or the level that an event was made for. -/
theorem Layout.Item.render_of_other_origin (item : Layout.Item) (scene : Layout.Scene)
    (owner : LoggerId) (own : Level) :
    item.render { scene with event := { scene.event with owner, level := own } } =
      item.render scene := by
  cases item with
  | field f => cases f <;> rfl
  | _ => rfl

/-- An event is shown with the logger that is called and the level that is passed, whatever logger
and level it was made for. -/
theorem AppenderState.render_of_other_origin (state : AppenderState) (east : Int) (logger : Logger)
    (level : Level) (event : Event) (owner : LoggerId) (own : Level) :
    state.render east logger level { event with owner, level := own } =
      state.render east logger level event := by
  have hitem : ∀ item : Layout.Item,
      item.render
          { east, logger := logger.name, level, event := { event with owner, level := own } } =
        item.render { east, logger := logger.name, level, event } :=
    fun item => item.render_of_other_origin { east, logger := logger.name, level, event } owner own
  rw [render, render, Layout.render, Layout.render]
  rw [List.map_congr_left fun item _ => hitem item]

end EventLog
