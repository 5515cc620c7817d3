import Mathlib.Data.List.DropRight
import Mathlib.Data.List.Forall2
import EventLog.Proofs.Facility.Setup

/-!
# What an appender in memory has collected

The lines of an appender in memory are what the calls of loggers since it was last emptied delivered
to it (`lines_run`). A call delivers the event as often as the appender is listed at that moment if
the level that is passed is at or above both gates, and not at all otherwise (`delivery`). Nothing
else adds a line, and every line reads as the appender, the logger and the zone would show it at the
moment of the call.

The lines do not depend on what the other sinks and the surroundings are: facilities that agree on
the setup collect the same lines, whatever consoles and disks accept (`collected_congr`).
-/

namespace EventLog

/-- Whether an operation empties an appender in memory. -/
def Operation.takes (a : AppenderId) : Operation → Bool
  | take b => b == a
  | _ => false

namespace Facility

/-! ## What keeps the lines -/

/-- Every appender that was there is there, and observers react as before. -/
structure KeepsAppenders (s t : Facility) : Prop where
  size : s.appenders.size ≤ t.appenders.size
  reacts : ∀ allowed, s.ReactsIn allowed → t.ReactsIn allowed

theorem KeepsAppenders.trans {s t u : Facility} (h : KeepsAppenders s t) (h' : KeepsAppenders t u) :
    KeepsAppenders s u :=
  ⟨h.size.trans h'.size, fun allowed hs => h'.reacts allowed (h.reacts allowed hs)⟩

theorem Writes.keepsAppenders {a : AppenderId} {s t : Facility} (h : Writes a s t) :
    KeepsAppenders s t :=
  ⟨h.size.ge, fun _ hs => hs.of_writes h⟩

/-- Moreover the appenders in memory have the lines that they had. -/
structure KeepsLines (s t : Facility) : Prop extends KeepsAppenders s t where
  memory : ∀ a lines, a.index < s.appenders.size → (s.appender a).sink = .memory lines →
    (t.appender a).sink = .memory lines

namespace KeepsLines

variable {s t u : Facility}

theorem trans (h : KeepsLines s t) (h' : KeepsLines t u) : KeepsLines s u where
  toKeepsAppenders := h.toKeepsAppenders.trans h'.toKeepsAppenders
  memory a lines ha hs := h'.memory a lines (ha.trans_le h.size) (h.memory a lines ha hs)

theorem of_appenders (h : t.appenders = s.appenders) : KeepsLines s t := by
  have happender : ∀ a, t.appender a = s.appender a := by
    intro a
    rw [appender, appender, h]
  refine ⟨⟨by rw [h], fun allowed hs => ?_⟩, fun a lines _ hs => ?_⟩
  · exact hs.of_reaction fun a => by rw [happender]
  · rw [happender, hs]

theorem refl (s : Facility) : KeepsLines s s := .of_appenders rfl

/-- Writing through an appender keeps all lines if it does nothing to an appender in memory. -/
theorem of_writes {a : AppenderId} (h : Writes a s t)
    (hmem : ∀ lines, (s.appender a).sink = .memory lines → t = s) : KeepsLines s t := by
  refine ⟨h.keepsAppenders, fun b lines _ hs => ?_⟩
  by_cases hb : b = a
  · subst hb
    rw [hmem lines hs, hs]
  · rw [h.others b hb, hs]

theorem modifyAppender (s : Facility) (a : AppenderId) {change : Appender → Appender}
    (hchange : ∀ entry, (change entry).sink = entry.sink) :
    KeepsLines s (s.modifyAppender a change) := by
  refine ⟨⟨(size_modifyAppender s a change).ge, fun allowed hs => hs.modifyAppender a hchange⟩, ?_⟩
  intro b lines _ hs
  rw [appender_modifyAppender_of_keeps Appender.sink hchange, hs]

theorem newAppender (s : Facility) {sink : Sink} (hsink : sink.reaction? = none) :
    KeepsLines s (s.newAppender sink).2 := by
  refine ⟨⟨?_, fun allowed hs => hs.newAppender hsink⟩, fun a lines ha hs => ?_⟩
  · show s.appenders.size ≤ (s.appenders.push { sink }).size
    rw [Store.size_push]
    omega
  · rw [appender_newAppender, if_neg (by omega), hs]

theorem reopen (s : Facility) (a : AppenderId) : KeepsLines s (s.reopen a).2 := by
  refine .of_writes (writes_reopen a s) fun lines hs => ?_
  rw [Facility.reopen, hs]

theorem flushAppender (s : Facility) (a : AppenderId) : KeepsLines s (s.flushAppender a).2 := by
  refine .of_writes (writes_flushAppender a s) fun lines hs => ?_
  rw [Facility.flushAppender, hs]

theorem resetMetrics (s : Facility) (a : AppenderId) : KeepsLines s (s.resetMetrics a) := by
  refine .of_writes (writes_resetMetrics a s) fun lines hs => ?_
  rw [Facility.resetMetrics, hs]

theorem flushAll (s : Facility) (appenders : List AppenderId) :
    KeepsLines s (Facility.flushAll appenders s).2 :=
  flushAll_of_flushAppender KeepsLines.refl KeepsLines.trans KeepsLines.flushAppender s appenders

theorem inherit (s : Facility) (l : LoggerId) (a : AppenderId) : KeepsLines s (s.inherit l a) := by
  unfold Facility.inherit
  split
  · exact .modifyAppender s a fun _ => rfl
  · exact .refl s

theorem newFile (s : Facility) (path : String) :
    KeepsLines s
      ((s.newAppender (.file { path })).2.reopen (s.newAppender (.file { path })).1).2 :=
  (KeepsLines.newAppender s rfl).trans (.reopen _ _)

end KeepsLines

/-! ## One operation -/

/-- The events that an operation delivers to an appender in memory: a call of a logger delivers as
many as the appender is listed there, if the level passes both gates. They are shown with the name of
the logger that is called and the level that is passed, as if the event had been made for these. -/
def delivery (a : AppenderId) (s : Facility) : Operation → List String
  | .log l level event =>
    if (s.logger l).level ≤ level ∧ (s.appender a).level ≤ level then
      List.replicate ((s.logger l).appenders.count a)
        (((s.appender a).layout.getD (s.logger l).layout).layout.render
          { east := s.east
            logger := (s.logger l).name
            level := level
            event := { event with owner := l, level := level } })
    else []
  | _ => []

variable {s : Facility} {a : AppenderId} {lines : List String}

/-- An event that is let through becomes one more line. -/
theorem sink_deposit (ha : a.index < s.appenders.size) (hs : (s.appender a).sink = .memory lines)
    (l : LoggerId) (level : Level) (event : Event) :
    ((s.deposit a l level event).appender a).sink =
      .memory (lines ++ ((s.appender a).render s.east (s.logger l) level event).toList) := by
  rw [deposit]
  split
  · next h => rw [h, Option.toList_none, List.append_nil, hs]
  · next text h =>
    rw [h, emit, hs]
    exact congrArg Appender.sink (appender_modifyAppender_self ha _)

/-- Visits of appenders in order add one line for each time that an appender in memory is among
them, if it lets the event through. -/
theorem sink_visitAll (ha : a.index < s.appenders.size)
    (hs : (s.appender a).sink = .memory lines) (l : LoggerId) (level : Level) (event : Event)
    (appenders : List AppenderId) :
    ((s.visitAll l level event appenders).appender a).sink =
      .memory (lines ++
        (List.replicate (appenders.count a)
          ((s.appender a).render s.east (s.logger l) level event).toList).flatten) := by
  induction appenders generalizing s lines with
  | nil => simp [hs]
  | cons b rest ih =>
    have hshows := showsLike_visit b l level event s
    have ha' : a.index < (s.visit b l level event).appenders.size := hshows.size.symm ▸ ha
    rw [visitAll_cons]
    by_cases hb : b = a
    · -- The first visit adds its line to what the induction starts from.
      subst hb
      have hcall : s.countCall b = s := countCall_of_reaction b s (by rw [hs]; rfl)
      have hone : ((s.visit b l level event).appender b).sink =
          .memory (lines ++ ((s.appender b).render s.east (s.logger l) level event).toList) := by
        rw [visit, hcall, appender_afterCall, sink_deposit ha hs]
      rw [ih ha' hone, hshows.render, List.append_assoc, List.count_cons_self,
        List.replicate_succ, List.flatten_cons]
    · have hkept := sink_visit_of_ne b l level event s (Ne.symm hb)
      rw [ih ha' (hkept.trans hs), hshows.render, List.count_cons_of_ne hb]

theorem sink_log (hq : s.Quiet) (ha : a.index < s.appenders.size)
    (hs : (s.appender a).sink = .memory lines) (l : LoggerId) (level : Level) (event : Event) :
    ((s.log l level event).appender a).sink =
      .memory (lines ++ s.delivery a (.log l level event)) := by
  rw [log_of_quiet l level event s hq, delivery]
  by_cases hl : (s.logger l).level ≤ level
  · rw [if_neg (Level.not_lt.2 hl), sink_visitAll ha hs,
      ← AppenderState.render_of_other_origin _ _ _ _ _ l level, AppenderState.render]
    by_cases hgate : (s.appender a).level ≤ level
    · rw [if_neg (Level.not_lt.2 hgate), if_pos ⟨hl, hgate⟩, Option.toList_some,
        List.flatten_replicate_singleton]
    · rw [if_pos (Level.not_le.1 hgate), if_neg fun hboth => hgate hboth.2, Option.toList_none,
        List.flatten_replicate_nil]
  · rw [if_pos (Level.not_le.1 hl), if_neg fun hboth => hl hboth.1, List.append_nil, hs]

theorem keepsAppenders_log (hq : s.Quiet) (l : LoggerId) (level : Level) (event : Event) :
    KeepsAppenders s (s.log l level event) :=
  ⟨(showsLike_log l level event s hq).size.ge,
    fun _ hs => hs.of_reaction (reaction_log l level event s hq)⟩

/-- An operation is a call of a logger, or it empties an appender, or it keeps all lines and delivers
nothing. -/
theorem perform_cases [Calendar] (s : Facility) (operation : Operation) :
    (∃ l level event, operation = .log l level event) ∨ (∃ b, operation = .take b) ∨
      KeepsLines s (s.perform operation) ∧
        ∀ a, operation.takes a = false ∧ s.delivery a operation = [] := by
  cases operation with
  | log l level event => exact .inl ⟨l, level, event, rfl⟩
  | take b => exact .inr (.inl ⟨b, rfl⟩)
  | newLogger name => exact .inr (.inr ⟨.of_appenders rfl, fun _ => ⟨rfl, rfl⟩⟩)
  | setLevel l level => exact .inr (.inr ⟨.of_appenders rfl, fun _ => ⟨rfl, rfl⟩⟩)
  | setLayout l layout => exact .inr (.inr ⟨.of_appenders rfl, fun _ => ⟨rfl, rfl⟩⟩)
  | setPattern l pattern =>
    refine .inr (.inr ⟨.of_appenders ?_, fun _ => ⟨rfl, rfl⟩⟩)
    rw [perform, setPattern_snd]
    split <;> rfl
  | addAppender l a =>
    have hinherit : KeepsLines s (s.inherit l a) := .inherit s l a
    exact .inr (.inr ⟨hinherit.trans (.of_appenders rfl), fun _ => ⟨rfl, rfl⟩⟩)
  | delAppender l a => exact .inr (.inr ⟨.of_appenders rfl, fun _ => ⟨rfl, rfl⟩⟩)
  | clearAppenders l => exact .inr (.inr ⟨.of_appenders rfl, fun _ => ⟨rfl, rfl⟩⟩)
  | flush l => exact .inr (.inr ⟨.flushAll s _, fun _ => ⟨rfl, rfl⟩⟩)
  | newMemory => exact .inr (.inr ⟨.newAppender s rfl, fun _ => ⟨rfl, rfl⟩⟩)
  | newConsole painted => exact .inr (.inr ⟨.newAppender s rfl, fun _ => ⟨rfl, rfl⟩⟩)
  | newFile path =>
    obtain ⟨diagnostic, h⟩ := exists_newFileAppender_snd path s
    refine .inr (.inr ⟨?_, fun _ => ⟨rfl, rfl⟩⟩)
    rw [perform, h]
    exact (KeepsLines.newFile s path).trans (.of_appenders rfl)
  | openFile path =>
    refine .inr (.inr ⟨?_, fun _ => ⟨rfl, rfl⟩⟩)
    rw [perform, openFileAppender_snd]
    exact .newFile s path
  | setAppenderLevel a level =>
    exact .inr (.inr ⟨.modifyAppender s a fun _ => rfl, fun _ => ⟨rfl, rfl⟩⟩)
  | setAppenderLayout a layout =>
    exact .inr (.inr ⟨.modifyAppender s a fun _ => rfl, fun _ => ⟨rfl, rfl⟩⟩)
  | setAppenderPattern a pattern =>
    have hcompiled : KeepsLines s (s.compile pattern).2 := .of_appenders rfl
    exact .inr (.inr ⟨hcompiled.trans (.modifyAppender _ a fun _ => rfl), fun _ => ⟨rfl, rfl⟩⟩)
  | flushAppender a => exact .inr (.inr ⟨.flushAppender s a, fun _ => ⟨rfl, rfl⟩⟩)
  | reopen a => exact .inr (.inr ⟨.reopen s a, fun _ => ⟨rfl, rfl⟩⟩)
  | resetMetrics a => exact .inr (.inr ⟨.resetMetrics s a, fun _ => ⟨rfl, rfl⟩⟩)
  | surround east coloring console disk =>
    exact .inr (.inr ⟨.of_appenders rfl, fun _ => ⟨rfl, rfl⟩⟩)

theorem keepsAppenders_perform [Calendar] (hq : s.Quiet) (operation : Operation) :
    KeepsAppenders s (s.perform operation) := by
  rcases perform_cases s operation with ⟨l, level, event, rfl⟩ | ⟨b, rfl⟩ | ⟨hkeeps, -⟩
  · exact keepsAppenders_log hq l level event
  · exact (writes_take b s).keepsAppenders
  · exact hkeeps.toKeepsAppenders

/-- One operation adds what it delivers to an appender in memory, or empties it. -/
theorem sink_perform (hq : s.Quiet) (ha : a.index < s.appenders.size)
    (hs : (s.appender a).sink = .memory lines) (operation : Operation) :
    ((s.perform operation).appender a).sink =
      .memory (if operation.takes a then [] else lines ++ s.delivery a operation) := by
  rcases perform_cases s operation with ⟨l, level, event, rfl⟩ | ⟨b, rfl⟩ | ⟨hkeeps, hnothing⟩
  · exact sink_log hq ha hs l level event
  · by_cases hb : b = a
    · subst hb
      rw [perform, take, hs, Operation.takes, beq_self_eq_true, if_pos rfl]
      exact congrArg Appender.sink (appender_modifyAppender_self ha _)
    · -- Emptying another appender is a write to that one alone.
      have htakes : (Operation.take b).takes a = false := beq_false_of_ne hb
      rw [perform, (writes_take b s).others a (Ne.symm hb), hs, htakes, if_neg Bool.false_ne_true]
      exact congrArg Sink.memory (List.append_nil lines).symm
  · obtain ⟨htakes, hdelivers⟩ := hnothing a
    rw [hkeeps.memory a lines ha hs, htakes, if_neg Bool.false_ne_true, hdelivers, List.append_nil]

/-! ## Runs -/

theorem keepsAppenders_run (hq : s.Quiet) (operations : List Operation) :
    KeepsAppenders s (s.run operations) := by
  induction operations generalizing s with
  | nil => exact (KeepsLines.refl s).toKeepsAppenders
  | cons operation rest ih =>
    have hstep := keepsAppenders_perform hq operation
    exact hstep.trans (ih (hstep.reacts _ hq))

/-- The last operations of a history, since an appender was last emptied. -/
def sinceTake (a : AppenderId) (entries : List (Facility × Operation)) :
    List (Facility × Operation) :=
  entries.rtakeWhile fun entry => !entry.2.takes a

/-- What the operations of a history delivered to an appender since it was last emptied. -/
def collected (a : AppenderId) (entries : List (Facility × Operation)) : List String :=
  (sinceTake a entries).flatMap fun entry => entry.1.delivery a entry.2

theorem collected_concat (a : AppenderId) (entries : List (Facility × Operation)) (s : Facility)
    (operation : Operation) :
    collected a (entries ++ [(s, operation)]) =
      if operation.takes a then [] else collected a entries ++ s.delivery a operation := by
  rw [collected, sinceTake, List.rtakeWhile_concat]
  cases h : operation.takes a with
  | true => rfl
  | false =>
    rw [Bool.not_false, if_pos rfl, List.flatMap_append, List.flatMap_singleton]
    rfl

theorem sink_run (hq : s.Quiet) (ha : a.index < s.appenders.size)
    (hs : (s.appender a).sink = .memory []) (operations : List Operation) :
    ((s.run operations).appender a).sink = .memory (collected a (s.history operations)) := by
  induction operations using List.reverseRecOn with
  | nil => exact hs
  | append_singleton before operation ih =>
    have hkeeps := keepsAppenders_run hq before
    rw [run_append, history_append]
    show ((((s.run before).perform operation).appender a).sink = _)
    rw [sink_perform (hkeeps.reacts _ hq) (ha.trans_le hkeeps.size) ih operation]
    exact congrArg Sink.memory (collected_concat a _ _ operation).symm

theorem delivery_congr {t : Facility} (h : SameSetup s t) {operation operation' : Operation}
    (halike : operation.Alike operation') : t.delivery a operation' = s.delivery a operation := by
  cases halike with
  | surround => rfl
  | same =>
    cases operation with
    | log l level event => rw [delivery, delivery, h.logger, h.state, h.east]
    | _ => rfl

theorem takes_congr {operation operation' : Operation} (halike : operation.Alike operation') :
    operation'.takes a = operation.takes a := by
  cases halike <;> rfl

/-- What an entry of a history means to an appender in memory. -/
def share (a : AppenderId) (entry : Facility × Operation) : Bool × List String :=
  (entry.2.takes a, entry.1.delivery a entry.2)

theorem collected_eq_share (a : AppenderId) (entries : List (Facility × Operation)) :
    collected a entries =
      ((entries.map (share a)).rtakeWhile fun part => !part.1).flatMap Prod.snd := by
  rw [collected, sinceTake, List.rtakeWhile, List.rtakeWhile, ← List.map_reverse,
    List.takeWhile_map, ← List.map_reverse, List.flatMap_map]
  rfl

theorem map_share_history_congr {t : Facility} (h : SameSetup s t) (hs : s.Passive) (ht : t.Passive)
    {operations operations' : List Operation}
    (halike : List.Forall₂ Operation.Alike operations operations') :
    (t.history operations').map (share a) = (s.history operations).map (share a) := by
  induction halike generalizing s t with
  | nil => rfl
  | @cons operation operation' rest rest' hfirst hrest ih =>
    have hs' := (keepsAppenders_perform hs.quiet operation).reacts _ hs
    have ht' := (keepsAppenders_perform ht.quiet operation').reacts _ ht
    rw [history, history, List.map_cons, List.map_cons, ih (h.perform hs ht hfirst) hs' ht', share,
      share, delivery_congr h hfirst, takes_congr hfirst]

/-- Facilities in agreement on the setup collect the same lines. -/
theorem collected_congr {t : Facility} (h : SameSetup s t) (hs : s.Passive) (ht : t.Passive)
    {operations operations' : List Operation}
    (halike : List.Forall₂ Operation.Alike operations operations') :
    collected a (t.history operations') = collected a (s.history operations) := by
  rw [collected_eq_share, collected_eq_share, map_share_history_congr h hs ht halike]

/-- Delivery is exact over whole runs. An appender that is in memory and empty at first has in the end
what the calls of loggers delivered to it since it was last emptied, in the order of the calls, and
that is what emptying it gives. It would have the same lines whatever the other sinks, the console and
the disk did, as long as no observer interferes with loggers. -/
theorem lines_run (s : Facility) (hq : s.Quiet) (a : AppenderId) (ha : a.index < s.appenders.size)
    (hs : (s.appender a).sink = .memory []) (operations : List Operation) :
    ((s.run operations).appender a).sink.lines = collected a (s.history operations) ∧
    ((s.run operations).take a).1 = collected a (s.history operations) ∧
    ∀ (t : Facility) (operations' : List Operation), s.Passive → t.Passive → SameSetup s t →
      (t.appender a).sink = .memory [] → List.Forall₂ Operation.Alike operations operations' →
      ((t.run operations').appender a).sink.lines = collected a (s.history operations) := by
  have hsink := sink_run hq ha hs operations
  refine ⟨?_, ?_, ?_⟩
  · rw [hsink, Sink.lines]
  · rw [take, hsink]
  · intro t operations' hps hpt hsame ht halike
    have hat : a.index < t.appenders.size := hsame.size.symm ▸ ha
    rw [sink_run hpt.quiet hat ht operations', Sink.lines, collected_congr hsame hps hpt halike]

/-- An appender that is listed twice gets each event twice, next to a file that is not open, and
whether the console is full or not. -/
theorem lines_run_of_listed_twice :
    let shown : SharedLayout :=
      { stamp := 0
        layout :=
          { pattern := "%c:%m"
            items := [.field .loggerName, .literal ":", .field .message]
            hasError := false } }
    let event : Event :=
      { owner := ⟨7⟩, level := .fatal, file := "main.rs", line := 1,
        stamp := { elapse := 0, thread := 1, fiber := 0, time := 0 }, message := "up" }
    let s : Facility :=
      { loggers := ⟨[{ name := "net", layout := shown, appenders := [⟨0⟩, ⟨1⟩, ⟨0⟩, ⟨2⟩] }]⟩
        appenders := ⟨[{ layout := shown, sink := .memory [] },
          { layout := shown, sink := .file { path := "closed.log" } },
          { layout := shown, sink := .console {} }]⟩ }
    let t : Facility := { s with console := { terminal := { full := true } } }
    let operations : List Operation :=
      [.log ⟨0⟩ .warn event, .take ⟨0⟩, .setAppenderLevel ⟨0⟩ .info, .log ⟨0⟩ .debug event,
        .log ⟨0⟩ .info event]
    ((s.run operations).appender ⟨0⟩).sink.lines = ["net:up", "net:up"] ∧
      ((t.run operations).appender ⟨0⟩).sink.lines = ["net:up", "net:up"] := by
  intro shown event s t operations
  have hreaction : ∀ a, (s.appender a).sink.reaction? = none := by
    rintro ⟨_ | _ | _ | index⟩
    all_goals rfl
  have hpassive : s.Passive := by
    intro a reaction ha
    rw [hreaction a] at ha
    cases ha
  have hsame : SameSetup s t := { SameSetup.refl s with }
  have hcollected : collected ⟨0⟩ (s.history operations) = ["net:up", "net:up"] := by
    decide +kernel
  obtain ⟨hlines, -, hother⟩ := lines_run s hpassive.quiet ⟨0⟩ (by decide) rfl operations
  constructor
  · rw [hlines, hcollected]
  · rw [hother t operations hpassive hpassive hsame rfl (List.forall₂_same.2 fun _ _ => .same _),
      hcollected]

end Facility

end EventLog
