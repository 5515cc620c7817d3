import EventLog.Application.Call
import EventLog.Proofs.Application.Wrap
import EventLog.Proofs.Layout.ErrorFree
import EventLog.Proofs.Registry.Apply

/-!
# Which layouts loggers and appenders have

`HoldsLayouts P` says of a facility that all layouts in it satisfy `P`, and that an appender in the list
of a logger has a layout. Every function that makes or changes loggers and appenders keeps this, so
every call does that brings in no other layouts than such with `P` (`Application.holdsLayouts_run`).
What is compiled strictly has no fault, and so layouts without a fault have to satisfy `P`.
-/

namespace EventLog

open Config

/-- The appenders that an operation names. -/
def Operation.appenders : Operation → List AppenderId
  | addAppender _ a => [a]
  | delAppender _ a => [a]
  | setAppenderLevel a _ => [a]
  | setAppenderLayout a _ => [a]
  | setAppenderPattern a _ => [a]
  | take a => [a]
  | flushAppender a => [a]
  | reopen a => [a]
  | resetMetrics a => [a]
  | _ => []

/-- The appenders that a call names. -/
def Call.appenders : Call → List AppenderId
  | operate operation => operation.appenders
  | build builder => builder.appenders
  | _ => []

section

variable (P : Layout → Prop)

/-- Layouts that are compiled without a fault satisfy a condition. -/
def Layout.Admits [Calendar] : Prop :=
  ∀ pattern, (compile pattern).hasError = false → P (compile pattern)

/-- The layouts that an operation brings in without asking for faults satisfy a condition. -/
def Operation.Brings [Calendar] : Operation → Prop
  | setLayout _ layout => P layout.layout
  | setAppenderLayout _ layout => P layout.layout
  | setAppenderPattern _ pattern => P (.compile pattern)
  | _ => True

/-- The layouts that a call brings in without asking for faults satisfy a condition. -/
def Call.Brings [Calendar] : Call → Prop
  | operate operation => operation.Brings P
  | build builder => ∀ pattern, builder.pattern = some pattern → P (.compile pattern)
  | _ => True

namespace Facility

/-- All layouts satisfy a condition, and attached appenders have one. -/
structure HoldsLayouts (s : Facility) : Prop where
  logger : ∀ l, P (s.logger l).layout.layout
  appender : ∀ a shared, (s.appender a).layout = some shared → P shared.layout
  attached : ∀ l, ∀ a ∈ (s.logger l).appenders, (s.appender a).layout.isSome = true

end Facility

end

/-- The layout of a logger that is not there satisfies it as well. -/
theorem Layout.Admits.holds_default [Calendar] {P : Layout → Prop} (hP : Layout.Admits P) :
    P default := by
  rw [← Layout.compile_defaultPattern]
  exact hP _ Layout.hasError_defaultPattern

namespace Facility

/-- An appender that has a layout is there. -/
theorem lt_of_isSome_layout {s : Facility} {a : AppenderId}
    (h : (s.appender a).layout.isSome = true) : a.index < s.appenders.size := by
  by_contra hle
  rw [appender, Store.get_of_size_le s.appenders (Nat.le_of_not_lt hle)] at h
  cases h

theorem lt_of_buildAppender [Calendar] {config : AppenderConfig} {s : Facility} {a : AppenderId}
    (h : (s.buildAppender config).1 = .ok a) :
    a.index < (s.buildAppender config).2.appenders.size := by
  have hbuilds := buildsAppender config s
  rw [h] at hbuilds
  cases hbuilds with
  | built grows =>
    rw [grows.appenders, Store.size_push]
    exact Nat.lt_succ_self _

theorem layout_setAppenderLevel (a : AppenderId) (level : Level) (s : Facility)
    (b : AppenderId) : ((s.setAppenderLevel a level).appender b).layout = (s.appender b).layout := by
  refine appender_modifyAppender_of_keeps (fun entry => entry.layout) ?_ s a b
  intro _
  rfl

/-- One more appender without a layout leaves all layouts as they are. -/
theorem layout_of_push {s t : Facility} {sink : Sink}
    (happenders : t.appenders = s.appenders.push { sink }) (a : AppenderId) :
    (t.appender a).layout = (s.appender a).layout := by
  rw [appender, happenders, Store.get_push]
  split
  · next ha =>
    rw [appender, Store.get_of_size_le s.appenders (Nat.le_of_eq ha.symm)]
    rfl
  · rfl

namespace HoldsLayouts

variable {P : Layout → Prop} {s t : Facility}

/-! ## Single objects -/

/-- Nothing of what counts has changed. -/
theorem of_same (h : HoldsLayouts P s) (hlogger : ∀ l, t.logger l = s.logger l)
    (happender : ∀ a, (t.appender a).layout = (s.appender a).layout) : HoldsLayouts P t := by
  refine ⟨fun l => ?_, fun a => ?_, fun l a ha => ?_⟩
  · rw [hlogger]
    exact h.logger l
  · rw [happender]
    exact h.appender a
  · rw [hlogger] at ha
    rw [happender]
    exact h.attached l a ha

theorem of_sameSetup (h : HoldsLayouts P s) (hst : SameSetup s t) : HoldsLayouts P t :=
  h.of_same hst.logger fun a => congrArg AppenderState.layout (hst.state a)

/-- A change of a logger that brings in no other layout and no other appender. -/
theorem modifyLogger (h : HoldsLayouts P s) (l : LoggerId) {change : Logger → Logger}
    (hlayout : ∀ entry, P entry.layout.layout → P (change entry).layout.layout)
    (happenders : ∀ entry, ∀ a ∈ (change entry).appenders, a ∈ entry.appenders) :
    HoldsLayouts P (s.modifyLogger l change) := by
  refine ⟨fun k => ?_, h.appender, fun k a ha => ?_⟩
  · rw [logger_modifyLogger]
    split
    · exact hlayout _ (h.logger k)
    · exact h.logger k
  · rw [logger_modifyLogger] at ha
    split at ha
    · exact h.attached k a (happenders _ a ha)
    · exact h.attached k a ha

theorem setLayout (h : HoldsLayouts P s) (l : LoggerId) {layout : SharedLayout}
    (hlayout : P layout.layout) : HoldsLayouts P (s.setLayout l layout) :=
  h.modifyLogger l (fun _ _ => hlayout) fun _ _ ha => ha

theorem setLevel (h : HoldsLayouts P s) (l : LoggerId) (level : Level) :
    HoldsLayouts P (s.setLevel l level) :=
  h.modifyLogger l (fun _ hlayout => hlayout) fun _ _ ha => ha

theorem clearAppenders (h : HoldsLayouts P s) (l : LoggerId) :
    HoldsLayouts P (s.clearAppenders l) :=
  h.modifyLogger l (fun _ hlayout => hlayout) fun _ _ ha => absurd ha List.not_mem_nil

theorem setAppenderLayout (h : HoldsLayouts P s) (a : AppenderId) {layout : SharedLayout}
    (hlayout : P layout.layout) : HoldsLayouts P (s.setAppenderLayout a layout) := by
  have happender : ∀ b, ((s.setAppenderLayout a layout).appender b).layout = some layout ∨
      ((s.setAppenderLayout a layout).appender b).layout = (s.appender b).layout := by
    intro b
    rw [Facility.setAppenderLayout, appender_modifyAppender]
    split
    · exact .inl rfl
    · exact .inr rfl
  refine ⟨h.logger, fun b shared hb => ?_, fun l b hb => ?_⟩
  · rcases happender b with heq | heq
    · rw [heq] at hb
      cases hb
      exact hlayout
    · exact h.appender b shared (heq ▸ hb)
  · rcases happender b with heq | heq
    · rw [heq, Option.isSome_some]
    · rw [heq]
      exact h.attached l b hb

theorem setAppenderLevel (h : HoldsLayouts P s) (a : AppenderId) (level : Level) :
    HoldsLayouts P (s.setAppenderLevel a level) :=
  h.of_same (fun _ => rfl) (layout_setAppenderLevel a level s)

/-- One more appender that has no layout yet. -/
theorem push (h : HoldsLayouts P s) {sink : Sink} (hloggers : t.loggers = s.loggers)
    (happenders : t.appenders = s.appenders.push { sink }) : HoldsLayouts P t := by
  refine h.of_same (fun l => ?_) (layout_of_push happenders)
  rw [Facility.logger, Facility.logger, hloggers]

theorem newAppender (h : HoldsLayouts P s) (sink : Sink) :
    HoldsLayouts P (s.newAppender sink).2 :=
  h.push rfl rfl

/-- An appender takes the layout of a logger if it has none, and then has one. -/
theorem inherit (h : HoldsLayouts P s) (l : LoggerId) {a : AppenderId}
    (ha : a.index < s.appenders.size) :
    HoldsLayouts P (s.inherit l a) ∧ ((s.inherit l a).appender a).layout.isSome = true := by
  rw [Facility.inherit]
  split
  · refine ⟨h.setAppenderLayout a (h.logger l), ?_⟩
    rw [appender_modifyAppender_self ha, Option.isSome_some]
  · next hnone => exact ⟨h, by simpa [Option.isSome_iff_ne_none] using hnone⟩

theorem addAppender (h : HoldsLayouts P s) (l : LoggerId) {a : AppenderId}
    (ha : a.index < s.appenders.size) : HoldsLayouts P (s.addAppender l a) := by
  obtain ⟨hinherit, hsome⟩ := h.inherit l ha
  refine ⟨fun k => ?_, hinherit.appender, fun k b hb => ?_⟩
  -- The list of the logger grows by an appender that has inherited a layout if it had none.
  · rw [Facility.addAppender, logger_modifyLogger]
    split <;> exact hinherit.logger k
  · rw [Facility.addAppender, appender_modifyLogger]
    rw [Facility.addAppender, logger_modifyLogger] at hb
    split at hb
    · rcases List.mem_append.1 hb with hb | hb
      · exact hinherit.attached k b hb
      · rw [List.mem_singleton.1 hb]
        exact hsome
    · exact hinherit.attached k b hb

end HoldsLayouts

theorem size_addAppender (l : LoggerId) (a : AppenderId) (s : Facility) :
    (s.addAppender l a).appenders.size = s.appenders.size := by
  have hinherit : (s.inherit l a).appenders.size = s.appenders.size := by
    rw [inherit]
    split
    · exact size_modifyAppender s a _
    · rfl
  exact hinherit

theorem HoldsLayouts.addAppenders {P : Layout → Prop} {s : Facility} (h : HoldsLayouts P s)
    (l : LoggerId) {appenders : List AppenderId}
    (hthere : ∀ a ∈ appenders, a.index < s.appenders.size) :
    HoldsLayouts P (s.addAppenders l appenders) := by
  induction appenders generalizing s with
  | nil => exact h
  | cons a rest ih =>
    rw [List.forall_mem_cons] at hthere
    have hrest : ∀ b ∈ rest, b.index < (s.addAppender l a).appenders.size := by
      rw [size_addAppender]
      exact hthere.2
    exact ih (h.addAppender l hthere.1) hrest

namespace HoldsLayouts

variable [Calendar] {P : Layout → Prop} {s : Facility}
  (hP : Layout.Admits P)

/-! ## Functions that compile -/

theorem compile (h : HoldsLayouts P s) (pattern : String) : HoldsLayouts P (s.compile pattern).2 :=
  h.of_same (fun _ => rfl) fun _ => rfl

include hP

theorem newLogger (h : HoldsLayouts P s) (name : String) :
    HoldsLayouts P (s.newLogger name).2 := by
  refine ⟨fun l => ?_, h.appender, fun l a ha => ?_⟩
  · rw [logger_newLogger]
    split
    · exact hP _ Layout.hasError_defaultPattern
    · exact h.logger l
  · rw [logger_newLogger] at ha
    split at ha
    · cases ha
    · exact h.attached l a ha

theorem setPattern (h : HoldsLayouts P s) (l : LoggerId) (pattern : String) :
    HoldsLayouts P (s.setPattern l pattern).2 := by
  rw [setPattern_snd]
  split
  · exact h.compile pattern
  · next hgood => exact (h.compile pattern).setLayout l (hP pattern (Bool.not_eq_true _ ▸ hgood))

theorem configurePattern (h : HoldsLayouts P s) (a : AppenderId) (pattern : Option String) :
    HoldsLayouts P (s.configurePattern a pattern).2 := by
  cases pattern with
  | none => exact h
  | some p =>
    cases hfaulty : (Layout.compile p).hasError with
    | true =>
      simp only [Facility.configurePattern, compileStrict_eq, hfaulty, if_true]
      exact h.compile p
    | false =>
      simp only [Facility.configurePattern, compileStrict_eq, hfaulty, Bool.false_eq_true, if_false]
      exact (h.compile p).setAppenderLayout a (hP p hfaulty)

theorem configureLogger (h : HoldsLayouts P s) (l : LoggerId) (config : LoggerConfig) :
    HoldsLayouts P (s.configureLogger l config).2 := by
  cases hpattern : config.pattern with
  | none =>
    simp only [Facility.configureLogger, hpattern]
    exact h
  | some p =>
    cases hfaulty : (Layout.compile p).hasError with
    | true =>
      simp only [Facility.configureLogger, hpattern, compileStrict_eq, hfaulty, if_true]
      exact h.compile p
    | false =>
      simp only [Facility.configureLogger, hpattern, compileStrict_eq, hfaulty,
        Bool.false_eq_true, if_false]
      exact (h.compile p).setLayout l (hP p hfaulty)

theorem buildAppender (h : HoldsLayouts P s) (config : AppenderConfig) :
    HoldsLayouts P (s.buildAppender config).2 := by
  rw [Facility.buildAppender]
  rcases makeTarget_cases config.target s with
    ⟨t, sink, heq, -, hgrows, -⟩ | ⟨t, path, fault, heq, -, hgrows⟩
  · have hmade := (h.push hgrows.loggers hgrows.appenders).setAppenderLevel
      ⟨s.appenders.size⟩ config.level
    have hconfigured := hmade.configurePattern hP ⟨s.appenders.size⟩ config.pattern
    rw [heq]
    dsimp only
    generalize (t.setAppenderLevel ⟨s.appenders.size⟩ config.level).configurePattern
      ⟨s.appenders.size⟩ config.pattern = result at hconfigured ⊢
    obtain ⟨_ | _, u⟩ := result <;> exact hconfigured
  · rw [heq]
    exact h.push hgrows.loggers hgrows.appenders

theorem attachConfigured (h : HoldsLayouts P s) (l : LoggerId) (configs : List AppenderConfig) :
    HoldsLayouts P (s.attachConfigured l configs).2 := by
  induction configs generalizing s with
  | nil => exact h
  | cons config rest ih =>
    have hbuilt := h.buildAppender hP config
    have hthere : ∀ a, (s.buildAppender config).1 = .ok a →
        a.index < (s.buildAppender config).2.appenders.size := fun _ => lt_of_buildAppender
    rw [Facility.attachConfigured]
    generalize s.buildAppender config = result at hbuilt hthere ⊢
    obtain ⟨_ | a, t⟩ := result
    · exact hbuilt
    · exact ih (hbuilt.addAppender l (hthere a rfl))

theorem buildLogger (h : HoldsLayouts P s) (config : LoggerConfig) :
    HoldsLayouts P (s.buildLogger config).2 := by
  have hstart : HoldsLayouts P (s.startLogger config) :=
    (h.newLogger hP config.name).setLevel _ config.level
  have hconfigured := hstart.configureLogger hP ⟨s.loggers.size⟩ config
  rw [buildLogger_eq]
  generalize (s.startLogger config).configureLogger ⟨s.loggers.size⟩ config = result
    at hconfigured ⊢
  obtain ⟨_ | _, t⟩ := result
  · exact hconfigured
  · have hattached := hconfigured.attachConfigured hP ⟨s.loggers.size⟩ config.appenders
    dsimp only
    generalize t.attachConfigured ⟨s.loggers.size⟩ config.appenders = result at hattached ⊢
    obtain ⟨_ | _, u⟩ := result <;> exact hattached

theorem buildLoggers (h : HoldsLayouts P s) (configs : List LoggerConfig) :
    HoldsLayouts P (s.buildLoggers configs).2 := by
  induction configs generalizing s with
  | nil => exact h
  | cons config rest ih =>
    have hbuilt := h.buildLogger hP config
    rw [Facility.buildLoggers]
    generalize s.buildLogger config = result at hbuilt ⊢
    obtain ⟨_ | l, t⟩ := result
    · exact hbuilt
    · have hrest := ih hbuilt
      dsimp only
      generalize t.buildLoggers rest = result at hrest ⊢
      obtain ⟨_ | _, u⟩ := result <;> exact hrest

theorem build (h : HoldsLayouts P s) (builder : LoggerBuilder)
    (hbrings : ∀ pattern, builder.pattern = some pattern → P (.compile pattern))
    (hthere : ∀ a ∈ builder.appenders, a.index < s.appenders.size) :
    HoldsLayouts P (s.build builder).2 := by
  have hstart := (h.newLogger hP builder.name).setLevel ⟨s.loggers.size⟩ builder.level
  rw [Facility.build]
  dsimp only
  cases hpattern : builder.pattern with
  | none => exact hstart.addAppenders _ hthere
  | some p => exact ((hstart.compile p).setLayout _ (hbrings p hpattern)).addAppenders _ hthere

/-! ## Operations -/

/-- Operations among appenders that only keep what they are given. -/
theorem perform (h : HoldsLayouts P s) (hs : s.Passive) {operation : Operation}
    (hthere : ∀ a ∈ operation.appenders, a.index < s.appenders.size)
    (hbrings : operation.Brings P) : HoldsLayouts P (s.perform operation) := by
  have hnewFile : ∀ path, HoldsLayouts P
      ((s.newAppender (.file { path })).2.reopen (s.newAppender (.file { path })).1).2 :=
    fun path => (h.newAppender _).of_sameSetup (writes_reopen _ _).toSameSetup
  cases operation with
  | newLogger name => exact h.newLogger hP name
  | setLevel l level => exact h.setLevel l level
  | setLayout l layout => exact h.setLayout l hbrings
  | setPattern l pattern => exact h.setPattern hP l pattern
  | addAppender l a => exact h.addAppender l (hthere a List.mem_cons_self)
  | delAppender l a =>
    exact h.modifyLogger l (fun _ hlayout => hlayout) fun _ _ hb => List.mem_of_mem_erase hb
  | clearAppenders l => exact h.clearAppenders l
  | flush l => exact h.of_sameSetup (sameSetup_flushAll s _)
  | log l level event => exact h.of_sameSetup (Passive.sameSetup_log l level event s hs)
  | newMemory => exact h.newAppender _
  | newConsole painted => exact h.newAppender _
  | newFile path =>
    obtain ⟨diagnostic, heq⟩ := exists_newFileAppender_snd path s
    rw [Facility.perform, heq]
    exact (hnewFile path).of_same (fun _ => rfl) fun _ => rfl
  | openFile path =>
    rw [Facility.perform, openFileAppender_snd]
    exact hnewFile path
  | setAppenderLevel a level => exact h.setAppenderLevel a level
  | setAppenderLayout a layout => exact h.setAppenderLayout a hbrings
  | setAppenderPattern a pattern => exact (h.compile pattern).setAppenderLayout a hbrings
  | take a => exact h.of_sameSetup (writes_take a s).toSameSetup
  | flushAppender a => exact h.of_sameSetup (writes_flushAppender a s).toSameSetup
  | reopen a => exact h.of_sameSetup (writes_reopen a s).toSameSetup
  | resetMetrics a => exact h.of_sameSetup (writes_resetMetrics a s).toSameSetup
  | surround east coloring console disk => exact h.of_same (fun _ => rfl) fun _ => rfl

end HoldsLayouts

end Facility

namespace Registry

open Facility

variable {P : Layout → Prop} {s : Facility}

/-! ## Taking in what was built -/

theorem holdsLayouts_adopt (h : HoldsLayouts P s) (target source : LoggerId) :
    HoldsLayouts P (adopt target source s) := by
  have hclear : HoldsLayouts P (((s.setLevel target (s.logger source).level).setLayout target
      (s.logger source).layout).clearAppenders target) :=
    ((h.setLevel target _).setLayout target (h.logger source)).clearAppenders target
  exact hclear.addAppenders target fun a ha => lt_of_isSome_layout (h.attached source a ha)

theorem holdsLayouts_enrollAll (h : HoldsLayouts P s) (built : List LoggerId) (r : Registry) :
    HoldsLayouts P (r.enrollAll built s).1 := by
  induction built generalizing s r with
  | nil => exact h
  | cons l rest ih =>
    rw [enrollAll_cons]
    apply ih
    rw [enroll]
    split
    · exact holdsLayouts_adopt h r.root l
    · exact h

theorem holdsLayouts_apply [Calendar] (hP : Layout.Admits P)
    (h : HoldsLayouts P s) (configs : List LoggerConfig) (r : Registry) :
    HoldsLayouts P (r.apply configs s).2.1 := by
  have hbuilt := h.buildLoggers hP configs
  rw [apply]
  generalize s.buildLoggers configs = result at hbuilt ⊢
  obtain ⟨_ | built, t⟩ := result
  · exact hbuilt
  · exact holdsLayouts_enrollAll hbuilt built r

end Registry

/-! ## Runs -/

namespace Application

open Facility

variable [Calendar] {p : Application}

/-- No call makes an appender that reacts in a way that none did before. -/
theorem keepsAppenders_perform (hq : p.facility.Quiet) (call : Call) :
    KeepsAppenders p.facility (p.perform call).facility := by
  cases call with
  | operate operation => exact Facility.keepsAppenders_perform hq operation
  | _ =>
    refine (KeepsLines.perform_call p ?_).toKeepsAppenders
    exact fun _ => nofun

/-- Call after call, all appenders only keep what they are given. -/
theorem passive_perform (h : p.facility.Passive) (call : Call) :
    (p.perform call).facility.Passive :=
  (keepsAppenders_perform h.quiet call).reacts _ h

theorem passive_run (h : p.facility.Passive) (calls : List Call) :
    (p.run calls).facility.Passive := by
  induction calls generalizing p with
  | nil => exact h
  | cons call rest ih => exact ih (passive_perform h call)

variable {P : Layout → Prop}
  (hP : Layout.Admits P)

include hP

theorem holdsLayouts_perform (h : HoldsLayouts P p.facility) (hs : p.facility.Passive) {call : Call}
    (hthere : ∀ a ∈ call.appenders, a.index < p.facility.appenders.size) (hbrings : call.Brings P) :
    HoldsLayouts P (p.perform call).facility := by
  cases call with
  | operate operation => exact h.perform hP hs hthere hbrings
  | build builder => exact h.build hP builder hbrings hthere
  | configure config => exact h.buildLogger hP config
  | apply configs => exact Registry.holdsLayouts_apply hP h configs p.registry
  | _ => exact h

/-- Every run that brings in only layouts with a property keeps it for all layouts. -/
theorem holdsLayouts_run (h : HoldsLayouts P p.facility) (hs : p.facility.Passive)
    (calls : List Call)
    (hcalls : ∀ entry ∈ p.history calls, entry.2.Brings P ∧
      ∀ a ∈ entry.2.appenders, a.index < entry.1.facility.appenders.size) :
    HoldsLayouts P (p.run calls).facility := by
  induction calls generalizing p with
  | nil => exact h
  | cons call rest ih =>
    rw [history, List.forall_mem_cons] at hcalls
    obtain ⟨⟨hbrings, hthere⟩, hrest⟩ := hcalls
    exact ih (holdsLayouts_perform hP h hs hthere hbrings) (passive_perform hs call) hrest

/-- At the start there is one logger, without appenders. -/
theorem holdsLayouts_initial (east : Int) : HoldsLayouts P (initial east).facility := by
  have hempty : HoldsLayouts P ({ east } : Facility) :=
    ⟨fun _ => hP.holds_default, fun _ _ hlayout => (nomatch hlayout),
      fun _ _ ha => absurd ha List.not_mem_nil⟩
  exact hempty.newLogger hP rootName

omit hP in
theorem passive_initial (east : Int) : (initial east).facility.Passive :=
  fun _ _ hreaction => nomatch hreaction

end Application

end EventLog
