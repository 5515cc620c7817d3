import EventLog.Facility.Construct
import EventLog.Proofs.Facility.Build
import EventLog.Proofs.Layout.ErrorFree

/-!
# Configured loggers and loggers made by hand

The two ways of making a logger differ in the order of things. A configured logger comes first and
its appenders are attached one by one as they are made; a builder makes its logger when all
appenders are there. Either way the files are opened in the same order, each appender gets its own
pattern before it is attached, and the layout of the logger is there when the first is attached. So
the loggers look the same (`constructed_as_configured`), though each holds layouts of its own.

The calls of a builder count only for the plan that they come to (`construct_eq`): the level and the
pattern that were set last, and the appenders in order. Wherever the pattern was set, every appender
without a layout of its own has the one of the logger in the end (`exists_build`).
-/

namespace EventLog

open Config

/-! ## Sinks -/

namespace Config

/-- Makes the sink of a target, which opens its file. -/
def Target.makeSink (target : Target) (d : Output.Disk) : Except Error Sink × Output.Disk :=
  match target with
  | console => (.ok (.console {}), d)
  | file path =>
    match d.create path with
    | (.ok handle, d) => (.ok (.file { path, stream := some { handle } }), d)
    | (.error fault, d) => (.error (.fileAppender path fault), d)

/-- Makes the sinks of targets in order, up to a file that cannot be opened. -/
def makeSinks : List Target → Output.Disk → Except Error (List Sink) × Output.Disk
  | [], d => (.ok [], d)
  | target :: rest, d =>
    match target.makeSink d with
    | (.error error, d) => (.error error, d)
    | (.ok sink, d) =>
      match makeSinks rest d with
      | (.error error, d) => (.error error, d)
      | (.ok sinks, d) => (.ok (sink :: sinks), d)

theorem Target.makeSink_of_opens {target : Target} {d : Output.Disk}
    (h : ∀ path ∈ target.paths, d.Opens path) :
    ∃ sink e, target.makeSink d = (.ok sink, e) ∧ Output.Disk.Opened target.paths d e := by
  cases target with
  | console => exact ⟨_, d, rfl, Output.Disk.opened_openAll [] d⟩
  | file path =>
    have hopened := Output.Disk.opened_create path d
    have hopens : (d.create path).1.isOk = true := h path (List.mem_singleton_self path)
    rw [makeSink]
    generalize d.create path = created at hopened hopens ⊢
    obtain ⟨fault | handle, e⟩ := created
    · cases hopens
    · exact ⟨_, e, rfl, hopened⟩

/-- Where every path can be opened, all sinks can be made one after the other. -/
theorem makeSinks_of_opens {targets : List Target} {d : Output.Disk}
    (h : ∀ target ∈ targets, ∀ path ∈ target.paths, d.Opens path) :
    ∃ sinks e, makeSinks targets d = (.ok sinks, e) := by
  induction targets generalizing d with
  | nil => exact ⟨[], d, rfl⟩
  | cons target rest ih =>
    rw [List.forall_mem_cons] at h
    obtain ⟨sink, e, hsink, hopened⟩ := target.makeSink_of_opens h.1
    obtain ⟨sinks, f, hsinks⟩ := ih fun other hother path hpath =>
      hopened.opens (h.2 other hother path hpath)
    exact ⟨sink :: sinks, f, by simp only [makeSinks, hsink, hsinks]⟩

/-! ## Appenders as they are made -/

/-- How many layouts an appender of this configuration compiles for itself. -/
def AppenderConfig.ownLayouts (config : AppenderConfig) : Nat := config.pattern.toList.length

/-- How many layouts the appenders of some configurations compile for themselves. -/
def allOwnLayouts : List AppenderConfig → Nat
  | [] => 0
  | config :: rest => config.ownLayouts + allOwnLayouts rest

/-- An appender as it is made, before it is attached; the stamp is that of its own layout. -/
def AppenderConfig.made (config : AppenderConfig) (stamp : Nat) (sink : Sink) : Appender where
  level := config.level
  layout := config.pattern.map fun p => ⟨stamp, Layout.compile p⟩
  sink := sink

/-- Appenders as they are made in order, their own layouts stamped in order. -/
def madeAll : List AppenderConfig → List Sink → Nat → List Appender
  | config :: rest, sink :: sinks, stamp =>
    config.made stamp sink :: madeAll rest sinks (stamp + config.ownLayouts)
  | _, _, _ => []

end Config

/-- An appender once it is attached to a logger with a layout. -/
def Appender.give (shared : SharedLayout) (a : Appender) : Appender :=
  { a with layout := some (a.layout.getD shared) }

/-- The identities that new appenders get. -/
def newIds (size count : Nat) : List AppenderId := (List.range' size count).map AppenderId.mk

/-! ## Making one appender -/

namespace Facility

section

variable {s : Facility}

theorem compile_of_accepted {p : String} (h : (Layout.compile p).hasError = false) (s : Facility) :
    s.compile p = (⟨s.nextStamp, Layout.compile p⟩, { s with nextStamp := s.nextStamp + 1 }) := by
  simp [compile, h, tell]

theorem makeTarget_eq (target : Target) (s : Facility) :
    ∃ closed, s.makeTarget target =
      match target.makeSink s.disk with
      | (.ok sink, disk) =>
        (.ok ⟨s.appenders.size⟩, { s with disk, appenders := s.appenders.push { sink } })
      | (.error error, disk) =>
        (.error error, { s with disk, appenders := s.appenders.push closed }) := by
  cases target with
  | console => exact ⟨default, rfl⟩
  | file path =>
    refine ⟨{ sink := .file { path } }, ?_⟩
    rw [makeTarget, openFileAppender_eq, Target.makeSink]
    rcases s.disk.create path with ⟨fault | handle, disk⟩ <;> rfl

/-- Making an appender by hand, when its pattern has no fault. -/
theorem makeAppender_eq {config : AppenderConfig} (h : IsAccepted config.pattern) (s : Facility) :
    ∃ closed, s.makeAppender config =
      match config.target.makeSink s.disk with
      | (.ok sink, disk) =>
        (.ok ⟨s.appenders.size⟩,
          { s with
            disk
            nextStamp := s.nextStamp + config.ownLayouts
            appenders := s.appenders.push (config.made s.nextStamp sink) })
      | (.error error, disk) =>
        (.error error, { s with disk, appenders := s.appenders.push closed }) := by
  obtain ⟨closed, htarget⟩ := makeTarget_eq config.target s
  refine ⟨closed, ?_⟩
  rw [makeAppender, htarget]
  rcases config.target.makeSink s.disk with ⟨error | sink, disk⟩
  · rfl
  · dsimp only [setAppenderLevel, setAppenderPattern, setAppenderLayout, modifyAppender,
      AppenderConfig.made, AppenderConfig.ownLayouts]
    rw [Store.modify_push_size]
    cases hpattern : config.pattern with
    | none => rfl
    | some p =>
      dsimp only
      rw [compile_of_accepted (h p hpattern)]
      dsimp only
      rw [Store.modify_push_size]
      rfl

/-- A configured appender is made as by hand, when its pattern has no fault. -/
theorem buildAppender_eq {config : AppenderConfig} (h : IsAccepted config.pattern) (s : Facility) :
    s.buildAppender config = s.makeAppender config := by
  rw [buildAppender, makeAppender]
  rcases s.makeTarget config.target with ⟨error | a, t⟩
  · rfl
  · dsimp only
    cases hpattern : config.pattern with
    | none => rfl
    | some p =>
      simp only [configurePattern, compileStrict_eq, h p hpattern, Bool.false_eq_true, if_false]
      rfl

/-! ## Making appenders in order -/

/-- Appenders that are made in order are the last of the store. -/
theorem procureAll_cases {configs : List AppenderConfig} (h : ∀ c ∈ configs, IsAccepted c.pattern)
    (s : Facility) :
    (∃ sinks disk, makeSinks (configs.map (·.target)) s.disk = (.ok sinks, disk) ∧
      s.procureAll (configs.map .new) =
        (.ok (newIds s.appenders.size configs.length),
          { s with
            disk
            nextStamp := s.nextStamp + allOwnLayouts configs
            appenders := ⟨s.appenders.entries ++ madeAll configs sinks s.nextStamp⟩ })) ∨
    ∃ error disk t, makeSinks (configs.map (·.target)) s.disk = (.error error, disk) ∧
      s.procureAll (configs.map .new) = (.error error, t) ∧
      t.surroundings = { s with disk }.surroundings := by
  induction configs generalizing s with
  | nil => exact .inl ⟨[], s.disk, rfl, by simp [procureAll, newIds, madeAll, allOwnLayouts]⟩
  | cons config rest ih =>
    rw [List.forall_mem_cons] at h
    obtain ⟨closed, hfirst⟩ := makeAppender_eq h.1 s
    rw [List.map_cons, List.map_cons, makeSinks, procureAll, procure, hfirst]
    rcases config.target.makeSink s.disk with ⟨error | sink, disk⟩
    · exact .inr ⟨error, disk, _, rfl, rfl, rfl⟩
    · dsimp only
      rcases ih h.2 { s with
          disk
          nextStamp := s.nextStamp + config.ownLayouts
          appenders := s.appenders.push (config.made s.nextStamp sink) } with
        ⟨sinks, disk', hsinks, hrest⟩ | ⟨error, disk', t, hsinks, hrest, ht⟩
      · dsimp only at hsinks hrest
        rw [hsinks, hrest]
        refine .inl ⟨sink :: sinks, disk', rfl, ?_⟩
        simp [newIds, madeAll, allOwnLayouts, Store.push, Store.size, List.range'_succ, Nat.add_assoc]
      · dsimp only at hsinks
        rw [hsinks, hrest]
        exact .inr ⟨error, disk', t, rfl, rfl, ht⟩

end

/-! ## Attaching appenders -/

/-- An appender that is attached gets the layout of the logger, unless it has one. -/
theorem addAppender_eq (l : LoggerId) (a : AppenderId) (s : Facility) :
    s.addAppender l a =
      (s.modifyAppender a (.give (s.logger l).layout)).modifyLogger l fun logger =>
        { logger with appenders := logger.appenders ++ [a] } := by
  rw [addAppender, inherit]
  refine congrArg (modifyLogger l _) ?_
  cases hlayout : (s.appender a).layout with
  | none =>
    rw [Option.isNone_none, if_pos rfl]
    refine congrArg (fun appenders => { s with appenders }) (Store.modify_congr ?_)
    show _ = (s.appender a).give _
    rw [Appender.give, hlayout]
    rfl
  | some own =>
    rw [Option.isNone_some, if_neg Bool.false_ne_true]
    have hkept : (s.appender a).give (s.logger l).layout = s.appender a := by
      rw [Appender.give, hlayout, Option.getD_some, ← hlayout]
    rw [modifyAppender, Store.modify_eq_self hkept]

/-- Attaching the last appender to the last logger. -/
theorem addAppender_last {s : Facility} {loggers : Store Logger} {appenders : Store Appender}
    {logger : Logger} {made : Appender} (hl : s.loggers = loggers.push logger)
    (ha : s.appenders = appenders.push made) :
    s.addAppender ⟨loggers.size⟩ ⟨appenders.size⟩ =
      { s with
        loggers := loggers.push { logger with
          appenders := logger.appenders ++ [⟨appenders.size⟩] }
        appenders := appenders.push (made.give logger.layout) } := by
  have hlogger : s.logger ⟨loggers.size⟩ = logger := by
    rw [Facility.logger, hl, Store.get_push, if_pos rfl]
  rw [addAppender_eq, hlogger, modifyLogger, modifyAppender, hl, ha]
  dsimp only
  rw [Store.modify_push_size, Store.modify_push_size]

theorem give_give (shared : SharedLayout) (a : Appender) :
    (a.give shared).give shared = a.give shared := by
  rw [Appender.give, Appender.give, Option.getD_some]

section

variable {l : LoggerId} {s : Facility}

theorem appender_addAppender {a : AppenderId} (ha : a.index < s.appenders.size) (b : AppenderId) :
    (s.addAppender l a).appender b =
      if b = a then (s.appender b).give (s.logger l).layout else s.appender b := by
  rw [addAppender_eq, appender_modifyLogger, appender_modifyAppender]
  simp only [ha, and_true]

theorem logger_addAppender (hl : l.index < s.loggers.size) (a : AppenderId) :
    (s.addAppender l a).logger l =
      { s.logger l with appenders := (s.logger l).appenders ++ [a] } := by
  rw [addAppender_eq]
  exact logger_modifyLogger_self hl _

theorem surroundings_addAppender (s : Facility) (l : LoggerId) (a : AppenderId) :
    (s.addAppender l a).surroundings = s.surroundings := by
  rw [addAppender_eq]
  rfl

/-- Attaching appenders puts them into the list, and the layout of the logger into those that have
none; one that is listed twice is not changed again. -/
theorem addAppenders_eq {appenders : List AppenderId} (hl : l.index < s.loggers.size)
    (hthere : ∀ a ∈ appenders, a.index < s.appenders.size) :
    (s.addAppenders l appenders).logger l =
        { s.logger l with appenders := (s.logger l).appenders ++ appenders } ∧
      (∀ a, (s.addAppenders l appenders).appender a =
        if a ∈ appenders then (s.appender a).give (s.logger l).layout else s.appender a) ∧
      (s.addAppenders l appenders).surroundings = s.surroundings := by
  induction appenders generalizing s with
  | nil => exact ⟨by rw [List.append_nil]; rfl, fun a => (if_neg List.not_mem_nil).symm, rfl⟩
  | cons a rest ih =>
    rw [List.forall_mem_cons] at hthere
    have hsize : (s.addAppender l a).appenders.size = s.appenders.size := by
      rw [addAppender_eq]
      exact size_modifyAppender s a _
    have hloggers : (s.addAppender l a).loggers.size = s.loggers.size := by
      rw [addAppender_eq]
      exact size_modifyLogger _ l _
    obtain ⟨hlist, hgiven, hrest⟩ := ih (s := s.addAppender l a) (hloggers ▸ hl)
      fun b hb => hsize ▸ hthere.2 b hb
    have hstep : s.addAppenders l (a :: rest) = (s.addAppender l a).addAppenders l rest := rfl
    rw [hstep]
    refine ⟨?_, fun b => ?_, hrest.trans (surroundings_addAppender s l a)⟩
    · rw [hlist, logger_addAppender hl]
      simp
    · rw [hgiven, appender_addAppender hthere.1, logger_addAppender hl]
      by_cases hb : b = a
      · subst hb
        simp [give_give]
      · simp [hb]

end

/-! ## A logger before its appenders -/

/-- A new logger with its gate and, if it is to have one, its pattern. -/
def prepareLogger (name : String) (level : Level) (pattern : Option String) (s : Facility) :
    Facility :=
  let s' := (s.newLogger name).2.setLevel ⟨s.loggers.size⟩ level
  match pattern with
  | none => s'
  | some p => (s'.compile p).2.setLayout ⟨s.loggers.size⟩ (s'.compile p).1

/-- A logger has a layout of its own before there are appenders. -/
theorem exists_prepareLogger (name : String) (level : Level) (pattern : Option String)
    (s : Facility) :
    ∃ shared : SharedLayout,
      (s.prepareLogger name level pattern).loggers =
        s.loggers.push { name, level, layout := shared } ∧
      (s.prepareLogger name level pattern).appenders = s.appenders ∧
      shared.layout = Layout.compile (pattern.getD Layout.defaultPattern) ∧
      s.nextStamp ≤ shared.stamp ∧
      shared.stamp < (s.prepareLogger name level pattern).nextStamp ∧
      (IsAccepted pattern →
        (s.prepareLogger name level pattern).surroundings = s.surroundings) := by
  have hnew : s.newLogger name = (⟨s.loggers.size⟩,
      { s with
        loggers := s.loggers.push
          { name, layout := ⟨s.nextStamp, Layout.compile Layout.defaultPattern⟩ }
        nextStamp := s.nextStamp + 1 }) := by
    rw [newLogger, compile_of_accepted Layout.hasError_defaultPattern]
  unfold prepareLogger
  rw [hnew]
  dsimp only [setLevel, modifyLogger]
  rw [Store.modify_push_size]
  cases pattern with
  | none => exact ⟨_, rfl, rfl, rfl, Nat.le_refl _, Nat.lt_succ_self _, fun _ => rfl⟩
  | some p =>
    refine ⟨⟨s.nextStamp + 1, Layout.compile p⟩, ?_, rfl, rfl, Nat.le_succ _, Nat.lt_succ_self _,
      fun h => ?_⟩
    · exact Store.modify_push_size s.loggers _ _
    · dsimp only
      rw [compile_of_accepted (h p rfl)]
      rfl

theorem build_eq (b : LoggerBuilder) (s : Facility) :
    s.build b = (⟨s.loggers.size⟩,
      (s.prepareLogger b.name b.level b.pattern).addAppenders ⟨s.loggers.size⟩ b.appenders) := by
  unfold build prepareLogger
  cases b.pattern <;> rfl

theorem configureLogger_eq {config : LoggerConfig} (h : IsAccepted config.pattern) (s : Facility) :
    ((s.newLogger config.name).2.setLevel ⟨s.loggers.size⟩ config.level).configureLogger
        ⟨s.loggers.size⟩ config =
      (.ok (), s.prepareLogger config.name config.level config.pattern) := by
  unfold configureLogger prepareLogger
  cases hpattern : config.pattern with
  | none => rfl
  | some p =>
    simp only [compileStrict_eq, h p hpattern, Bool.false_eq_true, if_false]

/-! ## Calls and plans -/

/-- The calls of a builder set its level and its pattern to the last ones, and add the appenders. -/
theorem chain_eq (calls : List BuilderCall) (b : LoggerBuilder) (s : Facility) :
    s.chain calls b =
      match s.procureAll (calls.filterMap BuilderCall.source?) with
      | (.ok appenders, t) =>
        (.ok { b with
          level := (calls.filterMap BuilderCall.level?).getLast?.getD b.level
          pattern := (calls.filterMap BuilderCall.pattern?).getLast?.or b.pattern
          appenders := b.appenders ++ appenders }, t)
      | (.error error, t) => (.error error, t) := by
  -- On the calls, for any builder: what was set before counts only where the rest sets nothing.
  induction calls generalizing b s with
  | nil => simp [chain, procureAll]
  | cons call rest ih =>
    cases call with
    | minLevel level =>
      have hlast :
          ((BuilderCall.minLevel level :: rest).filterMap BuilderCall.level?).getLast?.getD b.level =
            (rest.filterMap BuilderCall.level?).getLast?.getD level := by
        simp only [List.filterMap_cons, BuilderCall.level?, List.getLast?_cons, Option.getD_some]
      rw [chain, ih, hlast]
      rfl
    | pattern p =>
      have hlast :
          ((BuilderCall.pattern p :: rest).filterMap BuilderCall.pattern?).getLast?.or b.pattern =
            (rest.filterMap BuilderCall.pattern?).getLast?.or (some p) := by
        simp only [List.filterMap_cons, BuilderCall.pattern?, List.getLast?_cons]
        generalize (rest.filterMap _).getLast? = last
        cases last <;> rfl
      rw [chain, ih, hlast]
      rfl
    | appender source =>
      have hsources : (BuilderCall.appender source :: rest).filterMap BuilderCall.source? =
          source :: rest.filterMap BuilderCall.source? := rfl
      rw [chain, hsources, procureAll]
      rcases s.procure source with ⟨error | a, t⟩
      · rfl
      · dsimp only
        rw [ih]
        generalize t.procureAll _ = procured
        obtain ⟨error | appenders, u⟩ := procured
        · rfl
        · dsimp only [LoggerBuilder.withAppender]
          rw [List.append_assoc]
          rfl

/-- What a logger made by hand depends on: a plan, and the appenders once they are there. -/
theorem construct_eq (name : String) (calls : List BuilderCall) (s : Facility) :
    s.construct name calls =
      match s.procureAll (BuilderCall.plan calls).sources with
      | (.ok appenders, t) =>
        (.ok ⟨t.loggers.size⟩, (t.build ((BuilderCall.plan calls).builder name appenders)).2)
      | (.error error, t) => (.error error, t) := by
  rw [construct, chain_eq, BuilderCall.plan]
  rcases s.procureAll (calls.filterMap BuilderCall.source?) with ⟨error | appenders, t⟩
  · rfl
  · simp [Plan.builder, build_eq]

/-! ## Configured appenders -/

/-- Configured appenders are the last of the store, each attached as it was made. -/
theorem attachConfigured_cases {configs : List AppenderConfig}
    (h : ∀ c ∈ configs, IsAccepted c.pattern) {s : Facility} {loggers : Store Logger}
    {logger : Logger} (hl : s.loggers = loggers.push logger) :
    (∃ sinks disk, makeSinks (configs.map (·.target)) s.disk = (.ok sinks, disk) ∧
      s.attachConfigured ⟨loggers.size⟩ configs =
        (.ok (),
          { s with
            disk
            nextStamp := s.nextStamp + allOwnLayouts configs
            loggers := loggers.push { logger with
              appenders := logger.appenders ++ newIds s.appenders.size configs.length }
            appenders := ⟨s.appenders.entries ++
              (madeAll configs sinks s.nextStamp).map (.give logger.layout)⟩ })) ∨
    ∃ error disk t, makeSinks (configs.map (·.target)) s.disk = (.error error, disk) ∧
      s.attachConfigured ⟨loggers.size⟩ configs = (.error error, t) ∧
      t.surroundings = { s with disk }.surroundings := by
  -- On the configurations, for any list that the logger has so far.
  induction configs generalizing s logger with
  | nil =>
    refine .inl ⟨[], s.disk, rfl, ?_⟩
    simp [attachConfigured, newIds, madeAll, allOwnLayouts, ← hl]
  | cons config rest ih =>
    rw [List.forall_mem_cons] at h
    obtain ⟨closed, hfirst⟩ := makeAppender_eq h.1 s
    rw [List.map_cons, makeSinks, attachConfigured, buildAppender_eq h.1, hfirst]
    rcases config.target.makeSink s.disk with ⟨error | sink, disk⟩
    · exact .inr ⟨error, disk, _, rfl, rfl, rfl⟩
    · have hattached := @addAppender_last
        { s with
          disk
          nextStamp := s.nextStamp + config.ownLayouts
          appenders := s.appenders.push (config.made s.nextStamp sink) }
        loggers s.appenders logger _ hl rfl
      dsimp only at hattached ⊢
      generalize addAppender _ _ _ = u at hattached ⊢
      have hloggers : u.loggers = loggers.push _ := congrArg Facility.loggers hattached
      rcases ih h.2 hloggers with ⟨sinks, disk', hsinks, hrest⟩ | ⟨error, disk', t, hsinks, hrest, ht⟩
      all_goals subst hattached
      · dsimp only at hsinks hrest
        rw [hsinks, hrest]
        refine .inl ⟨sink :: sinks, disk', rfl, ?_⟩
        simp [newIds, madeAll, allOwnLayouts, Store.push, Store.size, List.range'_succ, Nat.add_assoc]
      · dsimp only at hsinks
        rw [hsinks, hrest]
        exact .inr ⟨error, disk', t, rfl, rfl, ht⟩

end Facility

/-! ## How a logger looks that was made as it is configured -/

namespace Config

/-- Every pattern can be compiled without a fault. -/
structure LoggerConfig.IsAccepted (config : LoggerConfig) : Prop where
  logger : Config.IsAccepted config.pattern
  appenders : ∀ c ∈ config.appenders, Config.IsAccepted c.pattern

/-- The targets of the appenders, in order. -/
def LoggerConfig.targets (config : LoggerConfig) : List Target := config.appenders.map (·.target)

/-- How an appender looks that was made for a logger with some layout. -/
def AppenderConfig.appearance (shared : Layout) (config : AppenderConfig) (sink : Sink) :
    AppenderAppearance where
  sink := sink
  level := config.level
  layout := some ((config.pattern.map Layout.compile).getD shared)
  sharesLayout := config.pattern.isNone

/-- How a logger looks that was made from a configuration. -/
def LoggerConfig.appearance (config : LoggerConfig) (sinks : List Sink) : Appearance :=
  let layout := Layout.compile (config.pattern.getD Layout.defaultPattern)
  { name := config.name
    level := config.level
    layout
    appenders := List.zipWith (fun c sink => c.appearance layout sink) config.appenders sinks }

theorem length_of_makeSinks {targets : List Target} {d e : Output.Disk} {sinks : List Sink}
    (h : makeSinks targets d = (.ok sinks, e)) : sinks.length = targets.length := by
  induction targets generalizing d e sinks with
  | nil =>
    cases h
    rfl
  | cons target rest ih =>
    rw [makeSinks] at h
    generalize target.makeSink d = first at h
    obtain ⟨error | sink, f⟩ := first
    · cases h
    · dsimp only at h
      generalize hrest : makeSinks rest f = result at h
      obtain ⟨error | others, g⟩ := result
      · cases h
      · cases h
        rw [List.length_cons, List.length_cons, ih hrest]

theorem length_madeAll {configs : List AppenderConfig} {sinks : List Sink}
    (h : sinks.length = configs.length) (stamp : Nat) :
    (madeAll configs sinks stamp).length = configs.length := by
  induction configs generalizing sinks stamp with
  | nil => rfl
  | cons config rest ih =>
    cases sinks with
    | nil => cases h
    | cons sink sinks =>
      rw [madeAll, List.length_cons, List.length_cons, ih (Nat.succ.inj h)]

/-- Layouts that appenders compile for themselves are not the one of the logger. -/
theorem map_appearance_madeAll {shared : SharedLayout} {configs : List AppenderConfig}
    {stamp : Nat} (hshared : shared.stamp < stamp ∨
      stamp + allOwnLayouts configs ≤ shared.stamp) (sinks : List Sink) :
    (madeAll configs sinks stamp).map (fun made => (made.give shared).appearance shared) =
      List.zipWith (fun c sink => c.appearance shared.layout sink) configs sinks := by
  induction configs generalizing sinks stamp with
  | nil => rfl
  | cons config rest ih =>
    cases sinks with
    | nil => rfl
    | cons sink sinks =>
      rw [allOwnLayouts] at hshared
      have hfirst : ((config.made stamp sink).give shared).appearance shared =
          config.appearance shared.layout sink := by
        rw [AppenderConfig.made, AppenderConfig.appearance, Appender.give, Appender.appearance]
        cases hpattern : config.pattern with
        | none => simp
        | some p =>
          -- Only here does the stamp count.
          have hone : config.ownLayouts = 1 := by rw [AppenderConfig.ownLayouts, hpattern]; rfl
          have hne : stamp ≠ shared.stamp := by omega
          simp [hne]
      rw [madeAll, List.map_cons, List.zipWith_cons_cons, hfirst, ih (by omega)]

end Config

namespace Facility

/-- The new appenders are at the end of the store. -/
theorem map_newIds {s : Facility} {old made : List Appender}
    (h : s.appenders.entries = old ++ made) {count : Nat} (hcount : count = made.length) :
    (newIds old.length count).map s.appender = made := by
  subst hcount
  refine List.ext_getElem (by simp [newIds]) fun index hleft hright => ?_
  simp [newIds, appender, Store.get, h, List.getD_eq_getElem?_getD, hright]

/-- A logger with new appenders looks as it is configured. -/
theorem appearance_eq {s : Facility} {l : LoggerId} {config : LoggerConfig} {sinks : List Sink}
    {shared : SharedLayout} (appenders : List AppenderId) (stamp : Nat)
    (hlogger : s.logger l =
      { name := config.name, level := config.level, layout := shared, appenders })
    (happenders : appenders.map s.appender =
      (madeAll config.appenders sinks stamp).map (.give shared))
    (hlayout : shared.layout = Layout.compile (config.pattern.getD Layout.defaultPattern))
    (hstamp : shared.stamp < stamp ∨
      stamp + allOwnLayouts config.appenders ≤ shared.stamp) :
    s.appearance l = config.appearance sinks := by
  have hmade := map_appearance_madeAll hstamp sinks
  have hlist : appenders.map (fun a => (s.appender a).appearance shared) =
      List.zipWith (fun c sink => c.appearance shared.layout sink) config.appenders sinks := by
    rw [← hmade]
    have hmapped := congrArg (List.map (Appender.appearance shared)) happenders
    rw [List.map_map, List.map_map] at hmapped
    exact hmapped
  rw [Facility.appearance, hlogger, LoggerConfig.appearance, ← hlayout]
  dsimp only
  rw [hlist]

/-- Making a logger comes to what a configuration says: it fails where the file of an appender
cannot be opened, and else makes the next logger, which looks as it is configured. -/
def Realizes (config : LoggerConfig) (s : Facility)
    (result : Except Error LoggerId × Facility) : Prop :=
  match makeSinks config.targets s.disk with
  | (.ok sinks, disk) =>
    result.1 = .ok ⟨s.loggers.size⟩ ∧
      result.2.appearance ⟨s.loggers.size⟩ = config.appearance sinks ∧
      result.2.surroundings = { s with disk }.surroundings
  | (.error error, disk) =>
    result.1 = .error error ∧ result.2.surroundings = { s with disk }.surroundings

theorem disk_of_surroundings {s t : Facility} (h : s.surroundings = t.surroundings) :
    s.disk = t.disk := by
  show s.surroundings.disk = t.surroundings.disk
  rw [h]

theorem surroundings_with_disk {s t : Facility} (h : s.surroundings = t.surroundings)
    (disk : Output.Disk) :
    ({ s with disk } : Facility).surroundings = ({ t with disk } : Facility).surroundings := by
  show { s.surroundings with disk } = { t.surroundings with disk }
  rw [h]

theorem realizes_buildLogger {config : LoggerConfig} (h : config.IsAccepted) (s : Facility) :
    Realizes config s (s.buildLogger config) := by
  obtain ⟨shared, hloggers, happenders, hlayout, -, hstamp, haround⟩ :=
    exists_prepareLogger config.name config.level config.pattern s
  have hready : (s.startLogger config).configureLogger ⟨s.loggers.size⟩ config =
      (.ok (), s.prepareLogger config.name config.level config.pattern) :=
    configureLogger_eq h.logger s
  have haround := haround h.logger
  rw [Realizes, buildLogger_eq, hready, LoggerConfig.targets, disk_of_surroundings haround.symm]
  dsimp only
  generalize s.prepareLogger config.name config.level config.pattern = t at *
  rcases attachConfigured_cases h.appenders hloggers with
    ⟨sinks, disk, hsinks, heq⟩ | ⟨error, disk, u, hsinks, heq, hu⟩
  · rw [heq, hsinks]
    refine ⟨rfl, ?_, surroundings_with_disk haround disk⟩
    have hlength : sinks.length = config.appenders.length := by
      rw [length_of_makeSinks hsinks, List.length_map]
    refine appearance_eq (newIds t.appenders.size config.appenders.length) t.nextStamp ?_ ?_ hlayout
      (.inl hstamp)
    · exact (Store.get_push s.loggers _ s.loggers.size).trans (if_pos rfl)
    · exact map_newIds rfl (by rw [List.length_map, length_madeAll hlength])
  · rw [heq, hsinks]
    exact ⟨rfl, hu.trans (surroundings_with_disk haround disk)⟩

/-- A builder makes the next logger, after its appenders. -/
theorem exists_build (b : LoggerBuilder) {s : Facility}
    (hthere : ∀ a ∈ b.appenders, a.index < s.appenders.size) :
    ∃ shared : SharedLayout,
      (s.build b).2.logger ⟨s.loggers.size⟩ =
        { name := b.name, level := b.level, layout := shared, appenders := b.appenders } ∧
      shared.layout = Layout.compile (b.pattern.getD Layout.defaultPattern) ∧
      s.nextStamp ≤ shared.stamp ∧
      (∀ a, (s.build b).2.appender a =
        if a ∈ b.appenders then (s.appender a).give shared else s.appender a) ∧
      (Config.IsAccepted b.pattern → (s.build b).2.surroundings = s.surroundings) := by
  obtain ⟨shared, hloggers, happenders, hlayout, hfresh, -, haround⟩ :=
    exists_prepareLogger b.name b.level b.pattern s
  rw [build_eq]
  generalize s.prepareLogger b.name b.level b.pattern = t at *
  have hself : t.logger ⟨s.loggers.size⟩ =
      { name := b.name, level := b.level, layout := shared } := by
    rw [logger, hloggers, Store.get_push, if_pos rfl]
  have happender : ∀ a, t.appender a = s.appender a := fun a => by
    rw [appender, appender, happenders]
  have hl : (⟨s.loggers.size⟩ : LoggerId).index < t.loggers.size := by
    rw [hloggers, Store.size_push]
    exact Nat.lt_succ_self _
  obtain ⟨hlist, hgiven, hkept⟩ := addAppenders_eq hl fun a ha => happenders ▸ hthere a ha
  rw [hself] at hlist hgiven
  refine ⟨shared, hlist, hlayout, hfresh, fun a => ?_, fun h => hkept.trans (haround h)⟩
  rw [hgiven, happender]

theorem index_of_mem_newIds {size count : Nat} {a : AppenderId} (h : a ∈ newIds size count) :
    a.index < size + count := by
  simp only [newIds, List.mem_map, List.mem_range'_1] at h
  obtain ⟨index, hindex, rfl⟩ := h
  exact hindex.2

theorem realizes_construct {config : LoggerConfig} (h : config.IsAccepted)
    {calls : List BuilderCall} (hplan : BuilderCall.plan calls = config.plan) (s : Facility) :
    Realizes config s (s.construct config.name calls) := by
  rw [Realizes, construct_eq, hplan, LoggerConfig.plan, LoggerConfig.targets]
  rcases procureAll_cases h.appenders s with
    ⟨sinks, disk, hsinks, heq⟩ | ⟨error, disk, t, hsinks, heq, ht⟩
  · rw [hsinks, heq]
    have hlength : sinks.length = config.appenders.length := by
      rw [length_of_makeSinks hsinks, List.length_map]
    have hcount := length_madeAll hlength s.nextStamp
    dsimp only
    -- The appenders are there, and the logger is made next.
    generalize ht : ({ s with
        disk
        nextStamp := s.nextStamp + allOwnLayouts config.appenders
        appenders := ⟨s.appenders.entries ++
          madeAll config.appenders sinks s.nextStamp⟩ } : Facility) = t
    have hloggers : t.loggers.size = s.loggers.size := by rw [← ht]
    have hstamp : s.nextStamp + allOwnLayouts config.appenders = t.nextStamp := by
      rw [← ht]
    have haround : t.surroundings = ({ s with disk } : Facility).surroundings := by
      rw [← ht]
      rfl
    have hmade := map_newIds (s := t) (by rw [← ht]) hcount.symm
    have hthere : ∀ a ∈ newIds s.appenders.size config.appenders.length,
        a.index < t.appenders.size := by
      intro a ha
      rw [← ht, Store.size, List.length_append, hcount]
      exact index_of_mem_newIds ha
    obtain ⟨shared, hlogger, hlayout, hfresh, hgiven, hkept⟩ :=
      exists_build (config.plan.builder config.name
        (newIds s.appenders.size config.appenders.length)) hthere
    rw [hloggers] at hlogger
    refine ⟨rfl, ?_, (hkept h.logger).trans haround⟩
    refine appearance_eq _ s.nextStamp hlogger ?_ hlayout (.inr (hstamp ▸ hfresh))
    refine Eq.trans (List.map_congr_left fun a ha => (hgiven a).trans (if_pos ha)) ?_
    rw [← hmade, List.map_map]
    rfl
  · rw [hsinks, heq]
    exact ⟨rfl, ht⟩

/-! ## Appenders of sources are there -/

theorem size_le_makeAppender {config : AppenderConfig} {s t : Facility} {a : AppenderId}
    (h : s.makeAppender config = (.ok a, t)) :
    a.index < t.appenders.size ∧ s.appenders.size ≤ t.appenders.size := by
  obtain ⟨closed, htarget⟩ := makeTarget_eq config.target s
  rw [makeAppender, htarget] at h
  generalize config.target.makeSink s.disk = made at h
  obtain ⟨error | sink, disk⟩ := made
  · cases h
  · have hsize : ∀ (u : Facility) (pattern : String),
        (u.setAppenderPattern a pattern).appenders.size = u.appenders.size :=
      fun u _ => size_modifyAppender _ a _
    dsimp only at h
    cases hpattern : config.pattern with
    | none =>
      rw [hpattern] at h
      cases h
      rw [setAppenderLevel, size_modifyAppender, Store.size_push]
      exact ⟨Nat.lt_succ_self _, Nat.le_succ _⟩
    | some p =>
      rw [hpattern] at h
      cases h
      rw [hsize, setAppenderLevel, size_modifyAppender, Store.size_push]
      exact ⟨Nat.lt_succ_self _, Nat.le_succ _⟩

/-- Appenders that were held or are made are there once all are. -/
theorem index_of_procureAll {sources : List Source} {s t : Facility} {appenders : List AppenderId}
    (hheld : ∀ a, .held a ∈ sources → a.index < s.appenders.size)
    (h : s.procureAll sources = (.ok appenders, t)) :
    (∀ a ∈ appenders, a.index < t.appenders.size) ∧ s.appenders.size ≤ t.appenders.size := by
  induction sources generalizing s appenders with
  | nil =>
    cases h
    exact ⟨List.forall_mem_nil _, Nat.le_refl _⟩
  | cons source rest ih =>
    rw [procureAll] at h
    generalize hfirst : s.procure source = first at h
    obtain ⟨error | a, u⟩ := first
    · cases h
    · dsimp only at h
      generalize hrest : u.procureAll rest = more at h
      obtain ⟨error | others, v⟩ := more
      · cases h
      · cases h
        have hone : a.index < u.appenders.size ∧ s.appenders.size ≤ u.appenders.size := by
          cases source with
          | held b =>
            cases hfirst
            exact ⟨hheld a List.mem_cons_self, Nat.le_refl _⟩
          | new config => exact size_le_makeAppender hfirst
        obtain ⟨hothers, hle⟩ := ih (fun b hb =>
          Nat.lt_of_lt_of_le (hheld b (List.mem_cons_of_mem _ hb)) hone.2) hrest
        exact ⟨List.forall_mem_cons.2 ⟨Nat.lt_of_lt_of_le hone.1 hle, hothers⟩,
          Nat.le_trans hone.2 hle⟩

end Facility

/-- The calls of a configuration come to what it asks for. -/
theorem plan_calls (config : LoggerConfig) : BuilderCall.plan config.calls = config.plan := by
  have hadds : ∀ configs : List AppenderConfig,
      (configs.map fun c => BuilderCall.appender (.new c)).filterMap BuilderCall.level? = [] ∧
      (configs.map fun c => BuilderCall.appender (.new c)).filterMap BuilderCall.pattern? = [] ∧
      (configs.map fun c => BuilderCall.appender (.new c)).filterMap BuilderCall.source? =
        configs.map .new := by
    intro configs
    induction configs with
    | nil => exact ⟨rfl, rfl, rfl⟩
    | cons c rest ih => exact ⟨ih.1, ih.2.1, congrArg (Source.new c :: ·) ih.2.2⟩
  obtain ⟨hlevels, hpatterns, hsources⟩ := hadds config.appenders
  rw [BuilderCall.plan, LoggerConfig.calls, LoggerConfig.plan]
  cases config.pattern <;>
    simp [BuilderCall.level?, BuilderCall.pattern?, BuilderCall.source?, List.filterMap_cons, *]

/-! ## Main statement -/

/-- A configured logger and one that is made by hand look the same, and leave everything around them
the same; where one cannot be made, neither can the other, for the same file. This holds for a
configuration without faulty patterns and any calls of a builder that come to its plan, whatever the
order of the calls; if all its files can be opened, there is a logger.

For any calls, faulty patterns included, the logger depends on no more than their plan, and in the
end all its appenders have a layout: their own from before, or the one of the logger. -/
theorem constructed_as_configured :
    (∀ config : LoggerConfig, BuilderCall.plan config.calls = config.plan) ∧
    (∀ (config : LoggerConfig) (calls : List BuilderCall) (s : Facility),
      config.IsAccepted → BuilderCall.plan calls = config.plan →
      (s.construct config.name calls).1 = (s.buildLogger config).1 ∧
      (s.construct config.name calls).2.surroundings = (s.buildLogger config).2.surroundings ∧
      (∀ l, (s.buildLogger config).1 = .ok l →
        (s.construct config.name calls).2.appearance l = (s.buildLogger config).2.appearance l) ∧
      ((∀ c ∈ config.appenders, ∀ path ∈ c.target.paths, s.disk.Opens path) →
        ∃ l, (s.buildLogger config).1 = .ok l)) ∧
    (∀ (name : String) (calls calls' : List BuilderCall) (s : Facility),
      BuilderCall.plan calls = BuilderCall.plan calls' →
      s.construct name calls = s.construct name calls') ∧
    ∀ (name : String) (calls : List BuilderCall) (s t : Facility) (appenders : List AppenderId),
      (∀ a, .held a ∈ (BuilderCall.plan calls).sources → a.index < s.appenders.size) →
      s.procureAll (BuilderCall.plan calls).sources = (.ok appenders, t) →
      ∃ l u shared, s.construct name calls = (.ok l, u) ∧
        u.logger l =
          { name, level := (BuilderCall.plan calls).level, layout := shared, appenders } ∧
        shared.layout =
          Layout.compile ((BuilderCall.plan calls).pattern.getD Layout.defaultPattern) ∧
        ∀ a, u.appender a =
          if a ∈ appenders then
            { t.appender a with layout := some ((t.appender a).layout.getD shared) }
          else t.appender a := by
  refine ⟨plan_calls, fun config calls s haccepted hplan => ?_, fun name calls calls' s hplan => ?_,
    fun name calls s t appenders hheld hprocured => ?_⟩
  · have hbuilt := Facility.realizes_buildLogger haccepted s
    have hconstructed := Facility.realizes_construct haccepted hplan s
    rw [Facility.Realizes] at hbuilt hconstructed
    generalize hsinks : makeSinks config.targets s.disk = made at hbuilt hconstructed
    obtain ⟨error | sinks, disk⟩ := made
    · obtain ⟨houtcome, haround⟩ := hbuilt
      obtain ⟨houtcome', haround'⟩ := hconstructed
      refine ⟨houtcome'.trans houtcome.symm, haround'.trans haround.symm, fun l hl => ?_,
        fun hopens => ?_⟩
      · cases houtcome.symm.trans hl
      · obtain ⟨sinks, e, hall⟩ := makeSinks_of_opens fun target htarget path hpath => by
          obtain ⟨c, hc, rfl⟩ := List.mem_map.1 htarget
          exact hopens c hc path hpath
        cases hsinks.symm.trans hall
    · obtain ⟨houtcome, hlooks, haround⟩ := hbuilt
      obtain ⟨houtcome', hlooks', haround'⟩ := hconstructed
      refine ⟨houtcome'.trans houtcome.symm, haround'.trans haround.symm, fun l hl => ?_,
        fun _ => ⟨_, houtcome⟩⟩
      cases houtcome.symm.trans hl
      exact hlooks'.trans hlooks.symm
  · rw [Facility.construct_eq, Facility.construct_eq, hplan]
  · obtain ⟨hthere, -⟩ := Facility.index_of_procureAll hheld hprocured
    obtain ⟨shared, hlogger, hlayout, -, hgiven, -⟩ :=
      Facility.exists_build ((BuilderCall.plan calls).builder name appenders) hthere
    refine ⟨_, _, shared, ?_, hlogger, hlayout, hgiven⟩
    rw [Facility.construct_eq, hprocured]

/-- A console and a file under one logger, with the settings of the builder made late and twice
over: the console shares the layout of the logger and the file does not. An appender that is held
without a layout gets the pattern that is set after it was added. -/
theorem constructed_as_configured_of_reordered :
    let console : AppenderConfig := { target := .console, level := .warn }
    let file : AppenderConfig := { target := .file "app.log", pattern := some "%m" }
    let config : LoggerConfig :=
      { name := "net", level := .info, pattern := some "%p %m", appenders := [console, file] }
    let calls : List BuilderCall :=
      [.appender (.new console), .pattern "%q", .minLevel .fatal, .appender (.new file),
        .minLevel .info, .pattern "%p %m"]
    let s : Facility := {}
    let held : Facility := { appenders := ⟨[{ sink := .memory [] }]⟩ }
    (∃ l, (s.buildLogger config).1 = .ok l ∧ (s.construct "net" calls).1 = .ok l ∧
      (s.construct "net" calls).2.appearance l = (s.buildLogger config).2.appearance l) ∧
    s.construct "net" calls = s.construct "net" config.calls ∧
    ((s.construct "net" calls).2.appearance ⟨0⟩).appenders.map (·.sharesLayout) = [true, false] ∧
    ∃ l u shared,
      held.construct "net" [.appender (.held ⟨0⟩), .pattern "%m"] = (.ok l, u) ∧
      (u.logger l).appenders = [⟨0⟩] ∧ shared.layout = Layout.compile "%m" ∧
      (u.appender ⟨0⟩).layout = some shared := by
  intro console file config calls s held
  obtain ⟨hcalls, hconfigured, hplans, hinherits⟩ := constructed_as_configured
  have hpattern : (Layout.compile "%p %m").hasError = false := by decide +kernel
  have hown : (Layout.compile "%m").hasError = false := by decide +kernel
  have haccepted : config.IsAccepted := by
    refine ⟨fun p hp => ?_, fun c hc p hp => ?_⟩
    · cases hp
      exact hpattern
    · rcases List.mem_pair.1 hc with rfl | rfl
      · cases hp
      · cases hp
        exact hown
  have hplan : BuilderCall.plan calls = config.plan := rfl
  obtain ⟨houtcome, -, hlooks, hopens⟩ := hconfigured config calls s haccepted hplan
  obtain ⟨l, hl⟩ := hopens fun c hc path hpath => by
    rcases List.mem_pair.1 hc with rfl | rfl
    · cases hpath
    · cases List.mem_singleton.1 hpath
      decide +kernel
  refine ⟨⟨l, hl, houtcome.trans hl, hlooks l hl⟩,
    hplans "net" calls config.calls s (hplan.trans (hcalls config).symm), by decide +kernel, ?_⟩
  obtain ⟨l, u, shared, hbuilt, hlogger, hlayout, hgiven⟩ :=
    hinherits "net" [.appender (.held ⟨0⟩), .pattern "%m"] held held [⟨0⟩]
      (fun a ha => by
        cases List.mem_singleton.1 ha
        decide) rfl
  refine ⟨l, u, shared, hbuilt, by rw [hlogger], hlayout, ?_⟩
  rw [hgiven, if_pos (List.mem_singleton_self _)]
  rfl

end EventLog
