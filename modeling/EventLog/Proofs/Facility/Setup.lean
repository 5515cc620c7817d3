import EventLog.Proofs.Facility.FanOut

/-!
# The setup depends on the operations alone

Where all appenders only keep, show or write what they are given, what they make of it is without
influence: facilities in agreement on the setup stay so while the same operations are performed on
both (`SameSetup.perform`), whatever their sinks hold and whatever consoles and disks they meet.
-/

namespace EventLog

/-- The same operation, or two changes of the surroundings that set the zone alike. -/
inductive Operation.Alike : Operation → Operation → Prop
  | same (operation : Operation) : Alike operation operation
  | surround (east : Int) (coloring coloring' : Bool) (console console' : Output.Console)
      (disk disk' : Output.Disk) :
    Alike (.surround east coloring console disk) (.surround east coloring' console' disk')

namespace Facility

theorem sameSetup_flushAll (s : Facility) (appenders : List AppenderId) :
    SameSetup s (flushAll appenders s).2 :=
  flushAll_of_flushAppender SameSetup.refl SameSetup.trans
    (fun s a => (writes_flushAppender a s).toSameSetup) s appenders

namespace SameSetup

variable {s t : Facility}

/-- What keeps the setup of each of two facilities keeps them in agreement. -/
theorem of_kept {s' t' : Facility} (h : SameSetup s t) (hs : SameSetup s s') (ht : SameSetup t t') :
    SameSetup s' t' :=
  (hs.symm.trans h).trans ht

theorem setPattern (h : SameSetup s t) (l : LoggerId) (pattern : String) :
    SameSetup (s.setPattern l pattern).2 (t.setPattern l pattern).2 := by
  obtain ⟨hlayout, hcompiled⟩ := h.compile pattern
  rw [setPattern_snd, setPattern_snd, hlayout]
  split
  · exact hcompiled
  · exact hcompiled.modifyLogger l _

theorem setAppenderLayout (h : SameSetup s t) (a : AppenderId) (layout : SharedLayout) :
    SameSetup (s.setAppenderLayout a layout) (t.setAppenderLayout a layout) := by
  refine h.modifyAppender a fun x y hstate => ?_
  exact congrArg (fun state : AppenderState => { state with layout := some layout }) hstate

theorem setAppenderPattern (h : SameSetup s t) (a : AppenderId) (pattern : String) :
    SameSetup (s.setAppenderPattern a pattern) (t.setAppenderPattern a pattern) := by
  obtain ⟨hlayout, hcompiled⟩ := h.compile pattern
  rw [Facility.setAppenderPattern, Facility.setAppenderPattern]
  dsimp only
  rw [hlayout]
  exact hcompiled.setAppenderLayout a _

theorem newLogger (h : SameSetup s t) (name : String) :
    SameSetup (s.newLogger name).2 (t.newLogger name).2 := by
  have hcompiled := (h.compile Layout.defaultPattern).2
  refine { hcompiled with loggers := ?_ }
  show t.loggers.push { name, layout := ⟨t.nextStamp, _⟩ } =
    s.loggers.push { name, layout := ⟨s.nextStamp, _⟩ }
  rw [h.loggers, h.nextStamp]

theorem addAppender (h : SameSetup s t) (l : LoggerId) (a : AppenderId) :
    SameSetup (s.addAppender l a) (t.addAppender l a) := by
  have hinherit : SameSetup (s.inherit l a) (t.inherit l a) := by
    rw [inherit, inherit, h.state, h.logger]
    split
    · exact h.setAppenderLayout a _
    · exact h
  exact hinherit.modifyLogger l _

/-- A new file appender has the same setup whether its file can be opened or not. -/
theorem reopenNew (h : SameSetup s t) (path : String) :
    SameSetup ((s.newAppender (.file { path })).2.reopen (s.newAppender (.file { path })).1).2
      ((t.newAppender (.file { path })).2.reopen (t.newAppender (.file { path })).1).2 :=
  (h.newAppender _).of_kept (writes_reopen _ _).toSameSetup (writes_reopen _ _).toSameSetup

/-- Facilities in agreement on the setup stay so while the same operations are performed. -/
theorem perform (h : SameSetup s t) (hs : s.Passive) (ht : t.Passive) {operation operation' : Operation}
    (halike : operation.Alike operation') :
    SameSetup (s.perform operation) (t.perform operation') := by
  cases halike with
  | surround east coloring coloring' console console' disk disk' => exact { h with east := rfl }
  | same =>
    cases operation with
    | newLogger name => exact h.newLogger name
    | setLevel l level => exact h.modifyLogger l _
    | setLayout l layout => exact h.modifyLogger l _
    | setPattern l pattern => exact h.setPattern l pattern
    | addAppender l a => exact h.addAppender l a
    | delAppender l a => exact h.modifyLogger l _
    | clearAppenders l => exact h.modifyLogger l _
    | flush l => exact h.of_kept (sameSetup_flushAll s _) (sameSetup_flushAll t _)
    | log l level event =>
      exact h.of_kept (Passive.sameSetup_log l level event s hs)
        (Passive.sameSetup_log l level event t ht)
    | newMemory => exact h.newAppender _
    | newConsole painted => exact h.newAppender _
    | newFile path =>
      obtain ⟨diagnostic, hd⟩ := exists_newFileAppender_snd path s
      obtain ⟨diagnostic', hd'⟩ := exists_newFileAppender_snd path t
      rw [Facility.perform, Facility.perform, hd, hd']
      exact (h.reopenNew path).tell diagnostic diagnostic'
    | openFile path =>
      rw [Facility.perform, Facility.perform, openFileAppender_snd, openFileAppender_snd]
      exact h.reopenNew path
    | setAppenderLevel a level =>
      refine h.modifyAppender a fun x y hstate => ?_
      exact congrArg (fun state : AppenderState => { state with level }) hstate
    | setAppenderLayout a layout => exact h.setAppenderLayout a layout
    | setAppenderPattern a pattern => exact h.setAppenderPattern a pattern
    | take a => exact h.of_kept (writes_take a s).toSameSetup (writes_take a t).toSameSetup
    | flushAppender a =>
      exact h.of_kept (writes_flushAppender a s).toSameSetup (writes_flushAppender a t).toSameSetup
    | reopen a => exact h.of_kept (writes_reopen a s).toSameSetup (writes_reopen a t).toSameSetup
    | resetMetrics a =>
      exact h.of_kept (writes_resetMetrics a s).toSameSetup (writes_resetMetrics a t).toSameSetup
    | surround east coloring console disk => exact { h with east := rfl }

end SameSetup

end Facility

end EventLog
