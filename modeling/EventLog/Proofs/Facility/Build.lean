import Mathlib.Data.List.Forall2
import EventLog.Facility.Build
import EventLog.Proofs.Facility.Frame
import EventLog.Proofs.Output.Disk

/-!
# What building makes

Building from a configuration adds objects and touches none that was there, whether it succeeds or
not (`Extends`). A logger that was built has what its configuration says
(`LoggerConfig.Describes`): its gate, a layout that no one else had before, and one new appender for
each that is configured, in order. An appender that has no pattern of its own holds the layout of the
logger.

On the disk building does no more than to open the files of the appenders that it comes to.
-/

namespace EventLog

namespace Config

/-- The pattern, if there is one, can be compiled without a fault. -/
def IsAccepted [Calendar] (pattern : Option String) : Prop :=
  ∀ p, pattern = some p → (Layout.compile p).hasError = false

/-- The file that an appender for this target opens, if it is one for a file. -/
def Target.paths : Target → List String
  | console => []
  | file path => [path]

/-- A new sink for a target. -/
inductive Target.Makes : Target → Sink → Prop
  | console : Makes console (.console {})
  | file (path : String) (handle : Output.Handle) :
    Makes (file path) (.file { path, stream := some { handle } })

/-- A new appender is as it is configured, next to a logger with the given layout. -/
structure AppenderConfig.Describes [Calendar] (config : AppenderConfig) (shared : SharedLayout)
    (appender : Appender) : Prop where
  level : appender.level = config.level
  sink : config.target.Makes appender.sink
  accepted : IsAccepted config.pattern
  /-- Without a pattern the appender holds the layout of the logger. -/
  inherited : config.pattern = none → appender.layout = some shared
  /-- With a pattern it has a layout of its own. -/
  own : ∀ p, config.pattern = some p →
    ∃ stamp, shared.stamp < stamp ∧ appender.layout = some ⟨stamp, Layout.compile p⟩

theorem AppenderConfig.Describes.isSome_layout [Calendar] {config : AppenderConfig}
    {shared : SharedLayout} {appender : Appender} (h : config.Describes shared appender) :
    appender.layout.isSome = true := by
  cases hpattern : config.pattern with
  | none => rw [h.inherited hpattern, Option.isSome_some]
  | some p =>
    obtain ⟨stamp, -, hlayout⟩ := h.own p hpattern
    rw [hlayout, Option.isSome_some]

/-- A logger and its appenders are as they are configured. -/
structure LoggerConfig.Describes [Calendar] (config : LoggerConfig) (s : Facility) (logger : Logger) :
    Prop where
  level : logger.level = config.level
  accepted : IsAccepted config.pattern
  layout : logger.layout.layout = Layout.compile (config.pattern.getD Layout.defaultPattern)
  appenders : List.Forall₂ (fun c a => c.Describes logger.layout (s.appender a))
    config.appenders logger.appenders

end Config

open Config

namespace Facility

/-! ## Adding objects -/

/-- Every appender that was there is there unchanged, and only sinks of this library are new. -/
structure AddsAppenders (s t : Facility) : Prop where
  nextStamp : s.nextStamp ≤ t.nextStamp
  appendersSize : s.appenders.size ≤ t.appenders.size
  appender : ∀ a : AppenderId, a.index < s.appenders.size → t.appender a = s.appender a
  reaction : ∀ a, (t.appender a).sink.reaction? = (s.appender a).sink.reaction?

/-- Moreover every logger that was there is there unchanged. -/
structure Extends (s t : Facility) : Prop extends AddsAppenders s t where
  loggersSize : s.loggers.size ≤ t.loggers.size
  logger : ∀ l : LoggerId, l.index < s.loggers.size → t.logger l = s.logger l

namespace AddsAppenders

variable {s t u : Facility}

theorem of_appenders (happenders : t.appenders = s.appenders) (hstamp : s.nextStamp ≤ t.nextStamp) :
    AddsAppenders s t := by
  have happender : ∀ a, t.appender a = s.appender a := by
    intro a
    rw [Facility.appender, Facility.appender, happenders]
  exact ⟨hstamp, Nat.le_of_eq (by rw [happenders]), fun a _ => happender a,
    fun a => by rw [happender]⟩

theorem trans (h : AddsAppenders s t) (h' : AddsAppenders t u) : AddsAppenders s u where
  nextStamp := Nat.le_trans h.nextStamp h'.nextStamp
  appendersSize := Nat.le_trans h.appendersSize h'.appendersSize
  appender a ha :=
    (h'.appender a (Nat.lt_of_lt_of_le ha h.appendersSize)).trans (h.appender a ha)
  reaction a := (h'.reaction a).trans (h.reaction a)

/-- One more appender at the end of the store. -/
theorem push {made : Appender} (happenders : t.appenders = s.appenders.push made)
    (hstamp : s.nextStamp ≤ t.nextStamp) (hmade : made.sink.reaction? = none) :
    AddsAppenders s t := by
  have happender : ∀ a : AppenderId,
      t.appender a = if a.index = s.appenders.size then made else s.appender a := by
    intro a
    rw [Facility.appender, happenders]
    exact Store.get_push s.appenders made a.index
  refine ⟨hstamp, ?_, fun a ha => ?_, fun a => ?_⟩
  · rw [happenders, Store.size_push]
    omega
  · rw [happender, if_neg (by omega)]
  · rw [happender]
    split
    · next ha =>
      -- Where no appender was, the store answers with an empty sink in memory.
      have hdefault : s.appender a = default :=
        Store.get_of_size_le s.appenders (Nat.le_of_eq ha.symm)
      rw [hmade, hdefault]
      rfl
    · rfl

end AddsAppenders

namespace Extends

variable {s t u : Facility}

theorem refl (s : Facility) : Extends s s :=
  ⟨.of_appenders rfl (Nat.le_refl _), Nat.le_refl _, fun _ _ => rfl⟩

theorem trans (h : Extends s t) (h' : Extends t u) : Extends s u where
  toAddsAppenders := h.toAddsAppenders.trans h'.toAddsAppenders
  loggersSize := Nat.le_trans h.loggersSize h'.loggersSize
  logger l hl := (h'.logger l (Nat.lt_of_lt_of_le hl h.loggersSize)).trans (h.logger l hl)

/-- One more logger at the end of the store. -/
theorem push {made : Logger} (h : AddsAppenders s t)
    (hloggers : t.loggers = s.loggers.push made) : Extends s t := by
  refine ⟨h, ?_, fun l hl => ?_⟩
  · rw [hloggers, Store.size_push]
    omega
  · rw [Facility.logger, hloggers, Store.get_push, if_neg (by omega)]
    rfl

end Extends

/-! ## Building an appender -/

theorem compileStrict_eq [Calendar] (error : Error) (pattern : String) (s : Facility) :
    s.compileStrict error pattern =
      (if (Layout.compile pattern).hasError then .error error else .ok (s.compile pattern).1,
        (s.compile pattern).2) :=
  rfl

theorem openFileAppender_eq (path : String) (s : Facility) :
    s.openFileAppender path =
      match s.disk.create path with
      | (.ok handle, disk) =>
        (.ok ⟨s.appenders.size⟩,
          { s with
            disk
            appenders := s.appenders.push { sink := .file { path, stream := some { handle } } } })
      | (.error fault, disk) =>
        (.error (.fileAppender path fault),
          { s with disk, appenders := s.appenders.push { sink := .file { path } } }) := by
  have hsink : ((s.newAppender (.file { path })).2.appender ⟨s.appenders.size⟩).sink =
      .file { path } := by
    rw [appender_newAppender, if_pos rfl]
  unfold openFileAppender reopen
  dsimp only [newAppender] at hsink ⊢
  rw [hsink]
  dsimp only [Output.FileSink.reopen, Output.FileSink.release, Output.FileSink.flush,
    Output.Disk.volume]
  rcases s.disk.create path with ⟨_ | _, disk⟩
  · dsimp only [setSink, modifyAppender]
    rw [Store.modify_push_size]
  · dsimp only [setSink, modifyAppender]
    rw [Store.modify_push_size]

/-- The second facility has one more appender and has opened some files. -/
structure Grows (s t : Facility) (made : Appender) (paths : List String) : Prop where
  loggers : t.loggers = s.loggers
  appenders : t.appenders = s.appenders.push made
  nextStamp : s.nextStamp ≤ t.nextStamp
  disk : t.disk = s.disk.openAll paths

/-- What building an appender comes to. -/
inductive BuildsAppender [Calendar] (config : AppenderConfig) (s : Facility) :
    Except Error AppenderId → Facility → Prop
  | built {t : Facility} {made : Appender} (grows : Grows s t made config.target.paths)
      (level : made.level = config.level) (sink : config.target.Makes made.sink)
      (accepted : IsAccepted config.pattern)
      (layout : made.layout = config.pattern.map fun p => ⟨s.nextStamp, Layout.compile p⟩)
      (opens : ∀ path ∈ config.target.paths, s.disk.Opens path) :
    BuildsAppender config s (.ok ⟨s.appenders.size⟩) t
  | unopened {t : Facility} {path : String} (fault : Fault) (target : config.target = .file path)
      (grows : Grows s t { sink := .file { path } } [path]) :
    BuildsAppender config s (.error (.fileAppender path fault)) t
  | refused {t : Facility} {made : Appender} {p : String} (component reason : String)
      (grows : Grows s t made config.target.paths) (sink : config.target.Makes made.sink)
      (pattern : config.pattern = some p) (faulty : (Layout.compile p).hasError = true)
      (opens : ∀ path ∈ config.target.paths, s.disk.Opens path) :
    BuildsAppender config s (.error (.invalidConfiguration component reason)) t

namespace Grows

variable {s t : Facility} {made : Appender} {paths : List String}

theorem modifyLast (h : Grows s t made paths) (change : Appender → Appender) :
    Grows s (t.modifyAppender ⟨s.appenders.size⟩ change) (change made) paths := by
  refine { h with appenders := ?_ }
  show t.appenders.modify s.appenders.size change = _
  rw [h.appenders, Store.modify_push_size]

theorem compile [Calendar] (h : Grows s t made paths) (pattern : String) :
    Grows s (t.compile pattern).2 made paths :=
  { h with nextStamp := Nat.le_succ_of_le h.nextStamp }

theorem addsAppenders (h : Grows s t made paths) (hmade : made.sink.reaction? = none) :
    AddsAppenders s t :=
  .push h.appenders h.nextStamp hmade

end Grows

theorem reaction_of_makes {target : Target} {sink : Sink} (h : target.Makes sink) :
    sink.reaction? = none := by
  cases h <;> rfl

/-- Making the sink of an appender opens its file, and that is all that can go wrong. -/
theorem makeTarget_cases (target : Target) (s : Facility) :
    (∃ t sink, s.makeTarget target = (.ok ⟨s.appenders.size⟩, t) ∧ target.Makes sink ∧
      Grows s t { sink } target.paths ∧ t.nextStamp = s.nextStamp ∧
      ∀ path ∈ target.paths, s.disk.Opens path) ∨
    (∃ t path fault, s.makeTarget target = (.error (.fileAppender path fault), t) ∧
      target = .file path ∧ Grows s t { sink := .file { path } } [path]) := by
  cases target with
  | console =>
    exact .inl ⟨_, _, rfl, .console, ⟨rfl, rfl, Nat.le_refl _, rfl⟩, rfl, List.forall_mem_nil _⟩
  | file path =>
    rw [makeTarget, openFileAppender_eq]
    have hdisk : s.disk.openAll [path] = (s.disk.create path).2 := rfl
    rcases hcreate : s.disk.create path with ⟨fault | handle, disk⟩
    · exact .inr ⟨_, path, fault, rfl, rfl, rfl, rfl, Nat.le_refl _, by rw [hdisk, hcreate]⟩
    · refine .inl ⟨_, _, rfl, .file path handle, ⟨rfl, rfl, Nat.le_refl _, ?_⟩, rfl, ?_⟩
      · rw [Target.paths, hdisk, hcreate]
      · refine List.forall_mem_singleton.2 ?_
        rw [Output.Disk.Opens, hcreate]
        rfl

theorem buildsAppender [Calendar] (config : AppenderConfig) (s : Facility) :
    BuildsAppender config s (s.buildAppender config).1 (s.buildAppender config).2 := by
  unfold buildAppender
  rcases makeTarget_cases config.target s with
    ⟨t, sink, heq, hmakes, hgrows, hstamp, hopens⟩ | ⟨t, path, fault, heq, htarget, hgrows⟩
  · rw [heq]
    dsimp only
    have hlevel := hgrows.modifyLast ({ · with level := config.level })
    cases hpattern : config.pattern with
    | none =>
      refine .built hlevel rfl hmakes ?_ ?_ hopens
      · intro p hp
        rw [hpattern] at hp
        cases hp
      · rw [hpattern]
        rfl
    | some p =>
      have hcompiled := hlevel.compile p
      cases hfaulty : (Layout.compile p).hasError with
      | true =>
        simp only [configurePattern, compileStrict_eq, hfaulty, if_true]
        exact .refused _ _ hcompiled hmakes hpattern hfaulty hopens
      | false =>
        simp only [configurePattern, compileStrict_eq, hfaulty, if_false, Bool.false_eq_true]
        refine .built (hcompiled.modifyLast _) rfl hmakes ?_ ?_ hopens
        · intro q hq
          rw [hpattern] at hq
          cases hq
          exact hfaulty
        · rw [hpattern, ← hstamp]
          rfl
  · rw [heq]
    exact .unopened fault htarget hgrows

section

variable [Calendar] {config : AppenderConfig} {s t : Facility} {outcome : Except Error AppenderId}

theorem BuildsAppender.loggers (h : BuildsAppender config s outcome t) : t.loggers = s.loggers := by
  cases h with
  | built grows => exact grows.loggers
  | unopened fault target grows => exact grows.loggers
  | refused component reason grows => exact grows.loggers

theorem BuildsAppender.addsAppenders (h : BuildsAppender config s outcome t) :
    AddsAppenders s t := by
  cases h with
  | built grows level sink => exact grows.addsAppenders (reaction_of_makes sink)
  | unopened fault target grows => exact grows.addsAppenders rfl
  | refused component reason grows sink => exact grows.addsAppenders (reaction_of_makes sink)

end

/-! ## Attaching appenders to a new logger -/

/-- The second facility has more appenders, some of which one logger has at the end of its list. -/
structure Attaches (l : LoggerId) (made : List AppenderId) (s t : Facility) : Prop
    extends AddsAppenders s t where
  loggersSize : t.loggers.size = s.loggers.size
  self : t.logger l = { s.logger l with appenders := (s.logger l).appenders ++ made }
  others : ∀ k, k ≠ l → t.logger k = s.logger k

namespace Attaches

variable {l : LoggerId} {made more : List AppenderId} {s t u : Facility}

theorem of_loggers (h : AddsAppenders s t) (hloggers : t.loggers = s.loggers) :
    Attaches l [] s t := by
  have hlogger : ∀ k, t.logger k = s.logger k := by
    intro k
    rw [logger, logger, hloggers]
  refine ⟨h, by rw [hloggers], ?_, fun k _ => hlogger k⟩
  rw [hlogger, List.append_nil]

theorem trans (h : Attaches l made s t) (h' : Attaches l more t u) :
    Attaches l (made ++ more) s u where
  toAddsAppenders := h.toAddsAppenders.trans h'.toAddsAppenders
  loggersSize := h'.loggersSize.trans h.loggersSize
  self := by rw [h'.self, h.self, List.append_assoc]
  others k hk := (h'.others k hk).trans (h.others k hk)

/-- Attaching to a logger that is new adds objects only. -/
theorem extends_of_le (h : Attaches l made t u) (hs : Extends s t)
    (hl : s.loggers.size ≤ l.index) : Extends s u where
  toAddsAppenders := hs.toAddsAppenders.trans h.toAddsAppenders
  loggersSize := h.loggersSize ▸ hs.loggersSize
  logger k hk := by
    have hne : k ≠ l := by
      rintro rfl
      omega
    rw [h.others k hne, hs.logger k hk]

end Attaches

/-- An appender that was just made is attached to a logger, which gives it its layout if it has
none. -/
theorem Grows.addAppender {s t : Facility} {made : Appender} {paths : List String}
    (h : Grows s t made paths) (hmade : made.sink.reaction? = none) {l : LoggerId}
    (hl : l.index < s.loggers.size) :
    Attaches l [⟨s.appenders.size⟩] s (t.addAppender l ⟨s.appenders.size⟩) ∧
      (t.addAppender l ⟨s.appenders.size⟩).appenders =
        s.appenders.push { made with layout := some (made.layout.getD (s.logger l).layout) } := by
  have hlogger : ∀ k, t.logger k = s.logger k := by
    intro k
    rw [logger, logger, h.loggers]
  have hlast : t.appender ⟨s.appenders.size⟩ = made := by
    rw [appender, h.appenders, Store.get_push, if_pos rfl]
  have hgrows : Grows s (t.inherit l ⟨s.appenders.size⟩)
      { made with layout := some (made.layout.getD (s.logger l).layout) } paths := by
    rw [inherit, hlast, hlogger]
    cases hlayout : made.layout with
    | none => exact h.modifyLast _
    | some own =>
      rw [Option.isNone_some, if_neg Bool.false_ne_true, Option.getD_some, ← hlayout]
      exact h
  have hl' : l.index < (t.inherit l ⟨s.appenders.size⟩).loggers.size := by
    rw [hgrows.loggers]
    exact hl
  have hkept : ∀ k, (t.inherit l ⟨s.appenders.size⟩).logger k = s.logger k := by
    intro k
    rw [logger, logger, hgrows.loggers]
  have hadds : AddsAppenders s (t.addAppender l ⟨s.appenders.size⟩) :=
    .push hgrows.appenders hgrows.nextStamp hmade
  refine ⟨⟨hadds, ?_, ?_, fun k hk => ?_⟩, hgrows.appenders⟩
  · rw [Facility.addAppender, size_modifyLogger, hgrows.loggers]
  · rw [Facility.addAppender, logger_modifyLogger_self hl', hkept]
  · rw [Facility.addAppender, logger_modifyLogger_of_ne hk, hkept]

/-- What an appender that was built is once it is attached. -/
theorem describes_of_built [Calendar] {config : AppenderConfig} {s : Facility} {made : Appender}
    {shared : SharedLayout} (level : made.level = config.level)
    (sink : config.target.Makes made.sink) (accepted : IsAccepted config.pattern)
    (layout : made.layout = config.pattern.map fun p => ⟨s.nextStamp, Layout.compile p⟩)
    (hshared : shared.stamp < s.nextStamp) :
    config.Describes shared { made with layout := some (made.layout.getD shared) } where
  level := level
  sink := sink
  accepted := accepted
  inherited hnone := by rw [layout, hnone]; rfl
  own p hp := ⟨s.nextStamp, hshared, by rw [layout, hp]; rfl⟩

theorem exists_attachConfigured [Calendar] {l : LoggerId} (configs : List AppenderConfig)
    {s : Facility} (hl : l.index < s.loggers.size)
    (hstamp : (s.logger l).layout.stamp < s.nextStamp) :
    ∃ made, Attaches l made s (s.attachConfigured l configs).2 ∧
      (∀ a ∈ made, s.appenders.size ≤ a.index ∧
        a.index < (s.attachConfigured l configs).2.appenders.size) ∧
      ((s.attachConfigured l configs).1 = .ok () →
        List.Forall₂ (fun c a => c.Describes (s.logger l).layout
          ((s.attachConfigured l configs).2.appender a)) configs made) := by
  induction configs generalizing s with
  | nil =>
    exact ⟨[], .of_loggers (.of_appenders rfl (Nat.le_refl _)) rfl,
      List.forall_mem_nil _, fun _ => .nil⟩
  | cons config rest ih =>
    have hbuilds := buildsAppender config s
    rw [attachConfigured]
    generalize s.buildAppender config = result at hbuilds ⊢
    obtain ⟨outcome, t⟩ := result
    cases outcome with
    | error error =>
      exact ⟨[], .of_loggers hbuilds.addsAppenders hbuilds.loggers,
        List.forall_mem_nil _, fun hok => nomatch hok⟩
    | ok =>
      obtain @⟨_, made, grows, level, sink, accepted, layout⟩ := hbuilds
      obtain ⟨hattaches, happenders⟩ := grows.addAppender (reaction_of_makes sink) hl
      have hdescribes := describes_of_built level sink accepted layout hstamp
      dsimp only
      generalize t.addAppender l ⟨s.appenders.size⟩ = u at hattaches happenders ⊢
      have hlayout : (u.logger l).layout = (s.logger l).layout := by rw [hattaches.self]
      have hstamp' : (u.logger l).layout.stamp < u.nextStamp := by
        rw [hlayout]
        exact Nat.lt_of_lt_of_le hstamp hattaches.nextStamp
      have hl' : l.index < u.loggers.size := by
        rw [hattaches.loggersSize]
        exact hl
      obtain ⟨made, hrest, hnew, hall⟩ := ih hl' hstamp'
      have hlast : (⟨s.appenders.size⟩ : AppenderId).index < u.appenders.size := by
        rw [happenders, Store.size_push]
        exact Nat.lt_succ_self _
      refine ⟨_, hattaches.trans hrest, ?_, fun hok => .cons ?_ (hlayout ▸ hall hok)⟩
      · intro a ha
        rcases List.mem_cons.1 ha with rfl | ha
        · exact ⟨Nat.le_refl _, Nat.lt_of_lt_of_le hlast hrest.appendersSize⟩
        · exact ⟨Nat.le_trans hattaches.appendersSize (hnew a ha).1, (hnew a ha).2⟩
      · -- What comes later leaves the first appender as it was made.
        rw [hrest.appender _ hlast, appender, happenders, Store.get_push, if_pos rfl]
        exact hdescribes

/-! ## Building a logger -/

/-- A logger was built from a configuration since the first facility: the logger, its layout and its
appenders are new. -/
structure BuiltSince [Calendar] (s : Facility) (config : LoggerConfig) (t : Facility) (l : LoggerId) :
    Prop where
  loggerIsNew : s.loggers.size ≤ l.index
  isThere : l.index < t.loggers.size
  layoutIsNew : s.nextStamp ≤ (t.logger l).layout.stamp
  appendersAreNew : ∀ a ∈ (t.logger l).appenders, s.appenders.size ≤ a.index
  appendersAreThere : ∀ a ∈ (t.logger l).appenders, a.index < t.appenders.size
  name : (t.logger l).name = config.name
  describes : config.Describes t (t.logger l)

theorem describes_of_kept [Calendar] {shared : SharedLayout} {configs : List AppenderConfig}
    {appenders : List AppenderId} {s t : Facility}
    (h : List.Forall₂ (fun c a => c.Describes shared (s.appender a)) configs appenders)
    (hkept : ∀ a ∈ appenders, t.appender a = s.appender a) :
    List.Forall₂ (fun c a => c.Describes shared (t.appender a)) configs appenders := by
  induction h with
  | nil => exact .nil
  | cons hfirst hrest ih =>
    rw [List.forall_mem_cons] at hkept
    exact .cons (hkept.1.symm ▸ hfirst) (ih hkept.2)

namespace BuiltSince

variable [Calendar] {config : LoggerConfig} {l : LoggerId} {r s t u : Facility}

theorem of_extends (h : BuiltSince s config t l) (hr : Extends r s) : BuiltSince r config t l :=
  { h with
    loggerIsNew := Nat.le_trans hr.loggersSize h.loggerIsNew
    layoutIsNew := Nat.le_trans hr.nextStamp h.layoutIsNew
    appendersAreNew := fun a ha => Nat.le_trans hr.appendersSize (h.appendersAreNew a ha) }

/-- A logger is as it was built as long as neither it nor its appenders change. -/
theorem of_kept (h : BuiltSince s config t l) (hlogger : u.logger l = t.logger l)
    (hloggers : t.loggers.size ≤ u.loggers.size) (happenders : t.appenders.size ≤ u.appenders.size)
    (hkept : ∀ a : AppenderId, a.index < t.appenders.size → u.appender a = t.appender a) :
    BuiltSince s config u l := by
  refine ⟨h.loggerIsNew, Nat.lt_of_lt_of_le h.isThere hloggers, ?_, ?_, ?_, ?_, ?_⟩
  all_goals rw [hlogger]
  · exact h.layoutIsNew
  · exact h.appendersAreNew
  · exact fun a ha => Nat.lt_of_lt_of_le (h.appendersAreThere a ha) happenders
  · exact h.name
  · exact { h.describes with
      appenders := describes_of_kept h.describes.appenders fun a ha =>
        hkept a (h.appendersAreThere a ha) }

/-- A logger stays as it was built while only objects are added. -/
theorem extends_right (h : BuiltSince s config t l) (hu : Extends t u) :
    BuiltSince s config u l :=
  h.of_kept (hu.logger l h.isThere) hu.loggersSize hu.appendersSize hu.appender

/-- Every appender of a logger that was built has a layout. -/
theorem isSome_layout (h : BuiltSince s config t l) :
    ∀ a ∈ (t.logger l).appenders, (t.appender a).layout.isSome = true := by
  have hall := h.describes.appenders
  generalize config.appenders = configs at hall
  generalize (t.logger l).appenders = appenders at hall ⊢
  induction hall with
  | nil => exact fun a ha => absurd ha List.not_mem_nil
  | cons hfirst hrest ih => exact List.forall_mem_cons.2 ⟨hfirst.isSome_layout, ih⟩

end BuiltSince

/-- The second facility has one more logger, which is as it is configured but for its appenders. -/
structure Prepares (config : LoggerConfig) (s t : Facility) (made : Logger) : Prop where
  name : made.name = config.name
  level : made.level = config.level
  empty : made.appenders = []
  fresh : s.nextStamp ≤ made.layout.stamp
  stamped : made.layout.stamp < t.nextStamp
  loggers : t.loggers = s.loggers.push made
  appenders : t.appenders = s.appenders
  disk : t.disk = s.disk

/-- A new logger that has its gate. -/
def startLogger [Calendar] (config : LoggerConfig) (s : Facility) : Facility :=
  (s.newLogger config.name).2.setLevel ⟨s.loggers.size⟩ config.level

theorem prepares_startLogger [Calendar] (config : LoggerConfig) (s : Facility) :
    Prepares config s (s.startLogger config)
      { name := config.name, level := config.level,
        layout := ⟨s.nextStamp, Layout.compile Layout.defaultPattern⟩ } where
  name := rfl
  level := rfl
  empty := rfl
  fresh := Nat.le_refl _
  stamped := Nat.lt_succ_self _
  loggers := Store.modify_push_size s.loggers _ _
  appenders := rfl
  disk := rfl

/-- A new logger gets its pattern, or is refused for it. -/
theorem configureLogger_cases [Calendar] (config : LoggerConfig) (s : Facility) :
    ∃ made, Prepares config s
        ((s.startLogger config).configureLogger ⟨s.loggers.size⟩ config).2 made ∧
      (((s.startLogger config).configureLogger ⟨s.loggers.size⟩ config).1 = .ok () ∧
          IsAccepted config.pattern ∧
          made.layout.layout = Layout.compile (config.pattern.getD Layout.defaultPattern) ∨
        ∃ p component reason, config.pattern = some p ∧ (Layout.compile p).hasError = true ∧
          ((s.startLogger config).configureLogger ⟨s.loggers.size⟩ config).1 =
            .error (.invalidConfiguration component reason)) := by
  have hstart := prepares_startLogger config s
  cases hpattern : config.pattern with
  | none =>
    simp only [configureLogger, hpattern]
    exact ⟨_, hstart, .inl ⟨trivial, fun p hp => (nomatch hp), rfl⟩⟩
  | some p =>
    cases hfaulty : (Layout.compile p).hasError with
    | true =>
      simp only [configureLogger, hpattern, compileStrict_eq, hfaulty, if_true]
      exact ⟨_, { hstart with stamped := Nat.lt_succ_of_lt hstart.stamped },
        .inr ⟨p, _, _, rfl, hfaulty, rfl⟩⟩
    | false =>
      simp only [configureLogger, hpattern, compileStrict_eq, hfaulty, if_false,
        Bool.false_eq_true]
      refine ⟨{ name := config.name, level := config.level,
                layout := ⟨s.nextStamp + 1, Layout.compile p⟩ },
        { hstart with
          fresh := Nat.le_succ _
          stamped := Nat.lt_succ_self _
          loggers := ?_ }, .inl ⟨trivial, ?_, rfl⟩⟩
      · show (s.startLogger config).loggers.modify s.loggers.size _ = _
        rw [hstart.loggers, Store.modify_push_size]
        rfl
      · intro q hq
        cases hq
        exact hfaulty

theorem buildLogger_eq [Calendar] (config : LoggerConfig) (s : Facility) :
    s.buildLogger config =
      match (s.startLogger config).configureLogger ⟨s.loggers.size⟩ config with
      | (.error error, t) => (.error error, t)
      | (.ok (), t) =>
        match t.attachConfigured ⟨s.loggers.size⟩ config.appenders with
        | (.ok (), u) => (.ok ⟨s.loggers.size⟩, u)
        | (.error error, u) => (.error error, u) :=
  rfl

/-- Building a logger adds objects only. If it succeeds, it gives a new logger that is as it is
configured. -/
theorem builtSince_buildLogger [Calendar] (config : LoggerConfig) (s : Facility) :
    Extends s (s.buildLogger config).2 ∧
      ∀ l, (s.buildLogger config).1 = .ok l → BuiltSince s config (s.buildLogger config).2 l := by
  obtain ⟨made, hprepares, hcase⟩ := configureLogger_cases config s
  rw [buildLogger_eq]
  generalize (s.startLogger config).configureLogger ⟨s.loggers.size⟩ config = result
    at hprepares hcase ⊢
  obtain ⟨outcome, t⟩ := result
  have hstamp : s.nextStamp ≤ t.nextStamp :=
    Nat.le_of_lt (Nat.lt_of_le_of_lt hprepares.fresh hprepares.stamped)
  have hextends : Extends s t :=
    .push (.of_appenders hprepares.appenders hstamp) hprepares.loggers
  rcases hcase with ⟨rfl, haccepted, hlayout⟩ | ⟨p, component, reason, -, -, rfl⟩
  · have hl : (⟨s.loggers.size⟩ : LoggerId).index < t.loggers.size := by
      rw [hprepares.loggers, Store.size_push]
      exact Nat.lt_succ_self _
    have hself : t.logger ⟨s.loggers.size⟩ = made := by
      rw [logger, hprepares.loggers, Store.get_push, if_pos rfl]
    obtain ⟨added, hattaches, hnew, hall⟩ :=
      exists_attachConfigured config.appenders hl (by rw [hself]; exact hprepares.stamped)
    dsimp only
    generalize t.attachConfigured ⟨s.loggers.size⟩ config.appenders = result
      at hattaches hnew hall ⊢
    obtain ⟨outcome, u⟩ := result
    have hextends' : Extends s u := hattaches.extends_of_le hextends (Nat.le_refl _)
    have hbuilt : u.logger ⟨s.loggers.size⟩ = { made with appenders := added } := by
      rw [hattaches.self, hself, hprepares.empty, List.nil_append]
    cases outcome with
    | error error =>
      refine ⟨hextends', fun l hok => ?_⟩
      cases hok
    | ok =>
      refine ⟨hextends', fun l hok => ?_⟩
      cases hok
      rw [hself] at hall
      rw [hprepares.appenders] at hnew
      refine ⟨Nat.le_refl _, hattaches.loggersSize.symm ▸ hl, ?_, ?_, ?_, ?_, ?_⟩
      all_goals rw [hbuilt]
      · exact hprepares.fresh
      · exact fun a ha => (hnew a ha).1
      · exact fun a ha => (hnew a ha).2
      · exact hprepares.name
      · exact ⟨hprepares.level, haccepted, hlayout, hall rfl⟩
  · refine ⟨hextends, fun l hok => ?_⟩
    cases hok

/-! ## Building loggers in order -/

/-- One configuration of a list, with what building it comes to. -/
structure Attempt where
  config : LoggerConfig
  outcome : Except Error LoggerId
  /-- The facility afterwards. -/
  left : Facility

/-- Whether the configuration could be built. -/
def Attempt.Succeeds (attempt : Attempt) : Prop := attempt.outcome.isOk = true

instance (attempt : Attempt) : Decidable attempt.Succeeds :=
  inferInstanceAs (Decidable (attempt.outcome.isOk = true))

/-- Builds each configuration of a list in the facility that those before it left. -/
def attempts [Calendar] : List LoggerConfig → Facility → List Attempt
  | [], _ => []
  | config :: rest, s =>
    ⟨config, (s.buildLogger config).1, (s.buildLogger config).2⟩ ::
      attempts rest (s.buildLogger config).2

/-- Each configuration is tried, in order. -/
theorem map_config_attempts (configs : List LoggerConfig) (s : Facility) :
    (s.attempts configs).map (·.config) = configs := by
  induction configs generalizing s with
  | nil => rfl
  | cons config rest ih => rw [attempts, List.map_cons, ih]

/-- A logger is what an attempt since the first facility gave, and has stayed so. -/
structure Attempt.Gave [Calendar] (attempt : Attempt) (s t : Facility) (l : LoggerId) : Prop
    extends BuiltSince s attempt.config t l where
  outcome : attempt.outcome = .ok l
  kept : t.logger l = attempt.left.logger l

/-- Building several loggers adds objects only, gives what the attempts gave if all succeed, and the
error of the first that does not. -/
theorem buildLoggers_cases [Calendar] (configs : List LoggerConfig) (s : Facility) :
    Extends s (s.buildLoggers configs).2 ∧
      ((∃ built, (s.buildLoggers configs).1 = .ok built ∧
          List.Forall₂ (fun attempt l => attempt.Gave s (s.buildLoggers configs).2 l)
            (s.attempts configs) built) ∨
        ∃ before attempt after error, s.attempts configs = before ++ attempt :: after ∧
          (∀ earlier ∈ before, earlier.Succeeds) ∧ attempt.outcome = .error error ∧
          (s.buildLoggers configs).1 = .error error) := by
  induction configs generalizing s with
  | nil => exact ⟨.refl s, .inl ⟨[], rfl, .nil⟩⟩
  | cons config rest ih =>
    obtain ⟨hextends, hbuilt⟩ := builtSince_buildLogger config s
    rw [attempts, buildLoggers]
    generalize s.buildLogger config = result at hextends hbuilt ⊢
    obtain ⟨outcome, t⟩ := result
    cases outcome with
    | error error => exact ⟨hextends, .inr ⟨[], _, _, error, rfl, fun _ h => (nomatch h), rfl, rfl⟩⟩
    | ok l =>
      obtain ⟨hrest, hcase⟩ := ih t
      dsimp only
      generalize t.buildLoggers rest = result at hrest hcase ⊢
      obtain ⟨outcome, u⟩ := result
      have hfirst : BuiltSince s config u l := (hbuilt l rfl).extends_right hrest
      rcases hcase with ⟨built, hok, hall⟩ |
        ⟨before, attempt, after, error, heq, hbefore, hfails, herror⟩
      · cases hok
        refine ⟨hextends.trans hrest, .inl ⟨_, rfl, .cons ?_ (hall.imp ?_)⟩⟩
        · exact { hfirst with outcome := rfl, kept := hrest.logger l (hbuilt l rfl).isThere }
        · exact fun attempt k hk => { hk with toBuiltSince := hk.toBuiltSince.of_extends hextends }
      · cases herror
        refine ⟨hextends.trans hrest,
          .inr ⟨⟨config, .ok l, t⟩ :: before, attempt, after, error, ?_, ?_, hfails, rfl⟩⟩
        · rw [heq, List.cons_append]
        · exact List.forall_mem_cons.2 ⟨rfl, hbefore⟩

end Facility

end EventLog
