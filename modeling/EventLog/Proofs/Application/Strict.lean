import EventLog.Proofs.Application.Layouts

/-!
# What is compiled strictly

Setting a pattern and building from configurations refuse the patterns that are not error-free, and no
others. A pattern that is refused changes neither loggers nor appenders. So where all layouts are
compiled strictly, handed down, or those that loggers start with, none of them has a fault
(`strict_iff_errorFree`).
-/

namespace EventLog

open Config Layout

/-- A pattern that the library honours in full, as far as the calendar goes. -/
def IsErrorFree [Calendar] (pattern : String) : Prop := ErrorFree Calendar.accepts pattern.toList

/-- A layout without a fault: it was compiled from an error-free pattern, and none of its items is a
marker. -/
structure Layout.IsFaultless [Calendar] (layout : Layout) : Prop where
  compiled : ∃ pattern, IsErrorFree pattern ∧ layout = .compile pattern
  hasError : layout.hasError = false
  items : Canonical Calendar.accepts layout.items

/-- The patterns of a logger that is configured and of its appenders. -/
def Config.LoggerConfig.patterns (config : LoggerConfig) : List String :=
  config.pattern.toList ++ config.appenders.filterMap (·.pattern)

/-- Whether an operation sets no layout but one that was compiled strictly or handed down. -/
def Operation.isStrict : Operation → Bool
  | setLayout _ _ => false
  | setAppenderLayout _ _ => false
  | setAppenderPattern _ _ => false
  | _ => true

/-- Whether the layouts that a call sets come only from new loggers, from patterns that are compiled
strictly, and from the loggers that appenders are attached to. -/
def Call.isStrict : Call → Bool
  | operate operation => operation.isStrict
  | build builder => builder.pattern.isNone
  | _ => true

namespace Facility

/-! ## Single patterns -/

theorem isAccepted_iff [Calendar] (pattern : Option String) :
    IsAccepted pattern ↔ ∀ p ∈ pattern, IsErrorFree p :=
  forall_congr' fun p => imp_congr_right fun _ => hasError_compile_eq_false_iff p

/-- A pattern is set, or it is refused and only compiling it has changed something. -/
theorem setPattern_cases [Calendar] (l : LoggerId) (pattern : String) (s : Facility) :
    IsErrorFree pattern ∧ (s.setPattern l pattern).1 = .ok () ∨
      ¬ IsErrorFree pattern ∧
        s.setPattern l pattern = (.error (.faultyPattern pattern), (s.compile pattern).2) := by
  rw [IsErrorFree, ← hasError_compile_eq_false_iff]
  cases hfaulty : (Layout.compile pattern).hasError with
  | true => simp [setPattern, compileStrict_eq, hfaulty]
  | false => simp [setPattern, compileStrict_eq, hfaulty]

theorem setPattern_ok_iff [Calendar] (l : LoggerId) (pattern : String) (s : Facility) :
    (s.setPattern l pattern).1 = .ok () ↔ IsErrorFree pattern := by
  rcases setPattern_cases l pattern s with ⟨hgood, hok⟩ | ⟨hbad, heq⟩
  · exact iff_of_true hok hgood
  · refine iff_of_false ?_ hbad
    rw [heq]
    exact fun h => nomatch h

/-! ## Configurations -/

/-- An appender for the console is built exactly if its pattern is error-free. -/
theorem exists_buildAppender_ok_iff [Calendar] {config : AppenderConfig}
    (htarget : config.target = .console) (s : Facility) :
    (∃ a, (s.buildAppender config).1 = .ok a) ↔ ∀ p ∈ config.pattern, IsErrorFree p := by
  have hbuilds := buildsAppender config s
  rw [← isAccepted_iff]
  generalize s.buildAppender config = result at hbuilds ⊢
  obtain ⟨outcome, t⟩ := result
  cases hbuilds with
  | built grows level sink accepted => exact iff_of_true ⟨_, rfl⟩ accepted
  | unopened fault target =>
    rw [htarget] at target
    cases target
  | refused component reason grows sink pattern faulty =>
    refine iff_of_false (fun ⟨a, ha⟩ => nomatch ha) fun haccepted => ?_
    rw [haccepted _ pattern] at faulty
    cases faulty

theorem attachConfigured_ok [Calendar] {configs : List AppenderConfig}
    (htargets : ∀ config ∈ configs, config.target = .console)
    (hpatterns : ∀ config ∈ configs, ∀ p ∈ config.pattern, IsErrorFree p) (l : LoggerId)
    (s : Facility) : (s.attachConfigured l configs).1 = .ok () := by
  induction configs generalizing s with
  | nil => rfl
  | cons config rest ih =>
    rw [List.forall_mem_cons] at htargets hpatterns
    obtain ⟨a, ha⟩ := (exists_buildAppender_ok_iff htargets.1 s).2 hpatterns.1
    rw [attachConfigured]
    generalize s.buildAppender config = result at ha ⊢
    obtain ⟨outcome, t⟩ := result
    cases ha
    exact ih htargets.2 hpatterns.2 (t.addAppender l a)

theorem mem_patterns_iff {config : LoggerConfig} {pattern : String} :
    pattern ∈ config.patterns ↔
      pattern ∈ config.pattern ∨ ∃ a ∈ config.appenders, pattern ∈ a.pattern := by
  simp [LoggerConfig.patterns]

/-- Whatever is built of a configuration has only error-free patterns. -/
theorem isErrorFree_of_buildLogger [Calendar] {config : LoggerConfig} {s : Facility} {l : LoggerId}
    (h : (s.buildLogger config).1 = .ok l) : ∀ p ∈ config.patterns, IsErrorFree p := by
  have hdescribes := ((builtSince_buildLogger config s).2 l h).describes
  intro p hp
  rcases mem_patterns_iff.1 hp with hp | ⟨a, ha, hp⟩
  · exact (isAccepted_iff _).1 hdescribes.accepted p hp
  · obtain ⟨made, -, hmade⟩ := Registry.exists_left_of_mem hdescribes.appenders.flip ha
    exact (isAccepted_iff _).1 hmade.accepted p hp

/-- A logger with appenders for the console is built exactly if all patterns are error-free. -/
theorem exists_buildLogger_ok_iff [Calendar] {config : LoggerConfig}
    (htargets : ∀ a ∈ config.appenders, a.target = .console) (s : Facility) :
    (∃ l, (s.buildLogger config).1 = .ok l) ↔ ∀ p ∈ config.patterns, IsErrorFree p := by
  constructor
  · rintro ⟨l, hl⟩
    exact isErrorFree_of_buildLogger hl
  · intro hpatterns
    have hown : IsAccepted config.pattern :=
      (isAccepted_iff _).2 fun p hp => hpatterns p (mem_patterns_iff.2 (.inl hp))
    have hall : ∀ a ∈ config.appenders, ∀ p ∈ a.pattern, IsErrorFree p :=
      fun a ha p hp => hpatterns p (mem_patterns_iff.2 (.inr ⟨a, ha, hp⟩))
    obtain ⟨made, -, hcase⟩ := configureLogger_cases config s
    rw [buildLogger_eq]
    generalize (s.startLogger config).configureLogger ⟨s.loggers.size⟩ config = result at hcase ⊢
    obtain ⟨outcome, t⟩ := result
    rcases hcase with ⟨rfl, -⟩ | ⟨p, -, -, hpattern, hfaulty, -⟩
    · have hattached := attachConfigured_ok htargets hall ⟨s.loggers.size⟩ t
      dsimp only
      generalize t.attachConfigured ⟨s.loggers.size⟩ config.appenders = result at hattached ⊢
      obtain ⟨outcome, u⟩ := result
      cases hattached
      exact ⟨_, rfl⟩
    · rw [hown p hpattern] at hfaulty
      cases hfaulty

/-- A faulty pattern of a logger is refused before its appenders are looked at. -/
theorem buildLogger_of_faulty [Calendar] {config : LoggerConfig} {pattern : String}
    (hpattern : config.pattern = some pattern) (hfaulty : ¬ IsErrorFree pattern) (s : Facility) :
    (s.buildLogger config).1 =
      .error (.configuredPattern ("logger '" ++ config.name ++ "'") pattern) := by
  rw [IsErrorFree, ← hasError_compile_eq_false_iff, Bool.not_eq_false] at hfaulty
  simp only [buildLogger, configureLogger, hpattern, compileStrict_eq, hfaulty, if_true]

end Facility

/-! ## Runs -/

/-- What is compiled without a fault is a layout without one. -/
theorem Layout.admits_isFaultless [Calendar] : Layout.Admits Layout.IsFaultless := by
  intro pattern h
  exact ⟨⟨pattern, (hasError_compile_eq_false_iff pattern).1 h, rfl⟩, h, canonical_items h⟩

theorem Call.brings_of_isStrict [Calendar] {call : Call} (h : call.isStrict = true) :
    call.Brings Layout.IsFaultless := by
  cases call with
  | operate operation => cases operation <;> trivial
  | build builder =>
    intro pattern hpattern
    rw [isStrict, hpattern] at h
    cases h
  | _ => trivial

/-- Whatever the calendar, the patterns that the strict functions take are the error-free ones. A
pattern that is refused changes neither loggers nor appenders. Over every run in which layouts are
compiled strictly or handed down, every logger has a layout without a fault, and so has every appender
in the list of a logger. -/
theorem strict_iff_errorFree [Calendar] :
    (∀ accepts : String → Bool, accepts defaultDatePattern = true → ∀ pattern,
      (compileFor accepts pattern).hasError = false ↔ ErrorFree accepts pattern.toList) ∧
    (∀ (s : Facility) l pattern,
      ((s.setPattern l pattern).1 = .ok () ↔ IsErrorFree pattern) ∧
      (¬ IsErrorFree pattern →
        (s.setPattern l pattern).1 = .error (.faultyPattern pattern) ∧
        (s.setPattern l pattern).2.loggers = s.loggers ∧
        (s.setPattern l pattern).2.appenders = s.appenders)) ∧
    (∀ (s : Facility) (config : AppenderConfig), config.target = .console →
      ((∃ a, (s.buildAppender config).1 = .ok a) ↔ ∀ p ∈ config.pattern, IsErrorFree p)) ∧
    (∀ (s : Facility) (config : LoggerConfig),
      ((∀ a ∈ config.appenders, a.target = .console) →
        ((∃ l, (s.buildLogger config).1 = .ok l) ↔ ∀ p ∈ config.patterns, IsErrorFree p)) ∧
      ∀ p ∈ config.pattern, ¬ IsErrorFree p →
        (s.buildLogger config).1 =
          .error (.configuredPattern ("logger '" ++ config.name ++ "'") p)) ∧
    ∀ east calls,
      (∀ entry ∈ (Application.initial east).history calls, entry.2.isStrict = true ∧
        ∀ a ∈ entry.2.appenders, a.index < entry.1.facility.appenders.size) →
      let s := ((Application.initial east).run calls).facility
      ∀ l, (s.logger l).layout.layout.IsFaultless ∧
        ∀ a ∈ (s.logger l).appenders, ∃ shared, (s.appender a).layout = some shared ∧
          shared.layout.IsFaultless := by
  refine ⟨fun _ => hasError_eq_false_iff, fun s l pattern => ⟨s.setPattern_ok_iff l pattern, ?_⟩,
    fun s _ htarget => Facility.exists_buildAppender_ok_iff htarget s,
    fun s _ => ⟨fun htargets => Facility.exists_buildLogger_ok_iff htargets s,
      fun _ hp hfaulty => Facility.buildLogger_of_faulty hp hfaulty s⟩, ?_⟩
  · intro hbad
    rcases s.setPattern_cases l pattern with ⟨hgood, -⟩ | ⟨-, heq⟩
    · exact absurd hgood hbad
    · rw [heq]
      exact ⟨rfl, rfl, rfl⟩
  · intro east calls hcalls s l
    have hP := Layout.admits_isFaultless
    have hholds : s.HoldsLayouts Layout.IsFaultless :=
      Application.holdsLayouts_run hP (Application.holdsLayouts_initial hP east)
        (Application.passive_initial east) calls
        fun entry hentry => ⟨Call.brings_of_isStrict (hcalls entry hentry).1, (hcalls entry hentry).2⟩
    refine ⟨hholds.logger l, fun a ha => ?_⟩
    obtain ⟨shared, hshared⟩ := Option.isSome_iff_exists.1 (hholds.attached l a ha)
    exact ⟨shared, hshared, hholds.appender a shared hshared⟩

/-- A date without a format is fine for a calendar that accepts the default only, and one with a format
is not. A logger keeps its pattern where another one is refused and hands it down, to an appender in
memory and to one that is configured for the root; one that is configured with a pattern has its own. -/
theorem strict_iff_errorFree_of_refused :
    let defaultOnly : String → Bool := (· == defaultDatePattern)
    let calls : List Call :=
      [.operate (.newLogger "net"), .operate (.setPattern ⟨1⟩ "[%p] %m%n"), .operate .newMemory,
        .operate (.setPattern ⟨1⟩ "%m%q"), .operate (.addAppender ⟨1⟩ ⟨0⟩),
        .apply [{ name := "root", appenders := [⟨.console, .warn, none⟩,
          ⟨.console, .debug, some "%d{%H:%M} %m%n"⟩] }]]
    let s := ((Application.initial 0).run calls).facility
    (ErrorFree defaultOnly "%p%%%d{}".toList ∧ ¬ ErrorFree defaultOnly "%d{%H}".toList) ∧
      ((s.logger ⟨1⟩).appenders = [⟨0⟩] ∧ (s.logger ⟨0⟩).appenders = [⟨1⟩, ⟨2⟩]) ∧
      ∀ l, ∀ a ∈ (s.logger l).appenders, ∃ shared, (s.appender a).layout = some shared ∧
        shared.layout.IsFaultless := by
  intro defaultOnly calls s
  have hlanguage := strict_iff_errorFree.1 defaultOnly (by decide)
  have hcalls : ∀ entry ∈ (Application.initial 0).history calls, entry.2.isStrict = true ∧
      ∀ a ∈ entry.2.appenders, a.index < entry.1.facility.appenders.size := by
    decide +kernel
  refine ⟨⟨(hlanguage _).1 ?_, (hlanguage _).not.1 ?_⟩, ⟨?_, ?_⟩, fun l => ?_⟩
  · decide +kernel
  · decide +kernel
  · decide +kernel
  · decide +kernel
  · exact (strict_iff_errorFree.2.2.2.2 0 calls hcalls l).2

end EventLog
