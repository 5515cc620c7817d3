import EventLog.Registry
import EventLog.Proofs.Facility.Build

/-!
# What a rejected configuration does to files

Configurations are gone through in order: each logger first, then its appenders one by one. An
appender for a file opens the file, which empties it, and building stops at the first pattern that is
faulty (`Passes`). So when a pattern is rejected, the files of the appenders before it stand there
and are empty, and all files that building did not come to are as they were (`Rejects`).
-/

namespace EventLog

open Output

namespace Config

/-- A logger or an appender that is configured. -/
inductive Part where
  | logger (config : LoggerConfig)
  | appender (config : AppenderConfig)

namespace Part

/-- The pattern that is configured for a part. -/
def pattern : Part → Option String
  | logger config => config.pattern
  | appender config => config.pattern

/-- The file that a part opens, if it does. -/
def paths : Part → List String
  | logger _ => []
  | appender config => config.target.paths

end Part

/-- A logger and its appenders, in the order in which they are built. -/
def LoggerConfig.parts (config : LoggerConfig) : List Part :=
  .logger config :: config.appenders.map .appender

/-- Building came to the first faulty pattern of some parts. Files that neither the part with that
pattern nor any before it opens are as they were; those of the parts before it stand there and are
empty. -/
def Rejects (parts : List Part) (d e : Disk) : Prop :=
  ∃ before part after, parts = before ++ part :: after ∧
    (∀ earlier ∈ before, IsAccepted earlier.pattern) ∧ ¬ IsAccepted part.pattern ∧
    (∀ path, (∀ opened ∈ (before ++ [part]).flatMap Part.paths, ¬ d.SameFile opened path) →
      e.standing? path = d.standing? path ∧ e.content path = d.content path) ∧
    ∀ opened ∈ before.flatMap Part.paths, e.StandsEmpty opened

end Config

open Config

namespace Facility

/-! ## Going through the parts -/

/-- What going through parts comes to, with the disk before and after. -/
inductive Passes {α : Type} (parts : List Part) (d : Disk) : Except Error α → Disk → Prop
  | accepted {e : Disk} (value : α) (all : ∀ part ∈ parts, IsAccepted part.pattern)
      (opens : ∀ path ∈ parts.flatMap Part.paths, d.Opens path)
      (disk : e = d.openAll (parts.flatMap Part.paths)) : Passes parts d (.ok value) e
  | rejected {e : Disk} (before after : List Part) {part : Part} (component reason : String)
      (split : parts = before ++ part :: after)
      (earlier : ∀ part ∈ before, IsAccepted part.pattern) (faulty : ¬ IsAccepted part.pattern)
      (opens : ∀ path ∈ (before ++ [part]).flatMap Part.paths, d.Opens path)
      (disk : e = d.openAll ((before ++ [part]).flatMap Part.paths)) :
    Passes parts d (.error (.invalidConfiguration component reason)) e
  | unopened (e : Disk) (path : String) (fault : Fault) :
    Passes parts d (.error (.fileAppender path fault)) e

namespace Passes

variable {α β : Type} {parts more : List Part} {d e f : Disk}

/-- More parts are gone through after some that were all accepted. -/
theorem append {value : α} {outcome : Except Error β} (h : Passes parts d (.ok value) e)
    (h' : Passes more e outcome f) : Passes (parts ++ more) d outcome f := by
  cases h with
  | accepted _ all opens disk =>
    subst disk
    have hopened := Disk.opened_openAll (parts.flatMap Part.paths) d
    cases h' with
    | accepted value all' opens' disk' =>
      refine .accepted value ?_ ?_ ?_
      · exact List.forall_mem_append.2 ⟨all, all'⟩
      · rw [List.flatMap_append]
        exact List.forall_mem_append.2 ⟨opens, fun path hpath => hopened.of_opens (opens' path hpath)⟩
      · rw [disk', List.flatMap_append, Disk.openAll_append]
    | @rejected _ before after part component reason split earlier faulty opens' disk' =>
      refine .rejected (parts ++ before) after component reason ?_ ?_ faulty ?_ ?_
      · rw [split, List.append_assoc]
      · exact List.forall_mem_append.2 ⟨all, earlier⟩
      · rw [List.append_assoc, List.flatMap_append]
        exact List.forall_mem_append.2 ⟨opens, fun path hpath => hopened.of_opens (opens' path hpath)⟩
      · rw [disk', ← Disk.openAll_append, ← List.flatMap_append, List.append_assoc]
    | unopened f path fault => exact .unopened f path fault

theorem accept {value : α} (h : Passes parts d (.ok value) e) (other : β) :
    Passes parts d (.ok other) e := by
  cases h with
  | accepted _ all opens disk => exact .accepted other all opens disk

/-- Parts after a failure are not gone through. -/
theorem stop {error : Error} (h : Passes parts d (.error error : Except Error α) e)
    (more : List Part) : Passes (parts ++ more) d (.error error : Except Error β) e := by
  cases h with
  | @rejected _ before after part component reason split earlier faulty opens disk =>
    refine .rejected before (after ++ more) component reason ?_ earlier faulty opens disk
    rw [split, List.append_assoc, List.cons_append]
  | unopened e path fault => exact .unopened e path fault

theorem fail {error : Error} (h : Passes parts d (.error error : Except Error α) e) :
    Passes parts d (.error error : Except Error β) e := by
  have hstop : Passes (parts ++ []) d (.error error : Except Error β) e := h.stop []
  rwa [List.append_nil] at hstop

theorem rejects {component reason : String}
    (h : Passes parts d (.error (.invalidConfiguration component reason) : Except Error α) e) :
    Rejects parts d e := by
  cases h with
  | @rejected _ before after part _ _ split earlier faulty opens disk =>
    subst disk
    refine ⟨before, part, after, split, earlier, faulty, ?_, ?_⟩
    · exact fun path hother => (Disk.opened_openAll _ d).content_eq hother
    · intro opened hopened
      have hcame : opened ∈ (before ++ [part]).flatMap Part.paths := by
        rw [List.flatMap_append]
        exact List.mem_append_left _ hopened
      exact Disk.standsEmpty_openAll hcame (opens opened hcame)

end Passes

theorem disk_addAppender (l : LoggerId) (a : AppenderId) (s : Facility) :
    (s.addAppender l a).disk = s.disk := by
  rw [addAppender, inherit]
  split <;> rfl

theorem not_isAccepted {p : String} {pattern : Option String} (hpattern : pattern = some p)
    (hfaulty : (Layout.compile p).hasError = true) : ¬ IsAccepted pattern := by
  intro h
  rw [h p hpattern] at hfaulty
  cases hfaulty

theorem passes_buildAppender (config : AppenderConfig) (s : Facility) :
    Passes [.appender config] s.disk (s.buildAppender config).1 (s.buildAppender config).2.disk := by
  have hbuilds := buildsAppender config s
  generalize s.buildAppender config = result at hbuilds ⊢
  obtain ⟨outcome, t⟩ := result
  have hpaths : [Part.appender config].flatMap Part.paths = config.target.paths :=
    List.flatMap_singleton ..
  cases hbuilds with
  | built grows level sink accepted layout opens =>
    exact .accepted _ (List.forall_mem_singleton.2 accepted) (hpaths ▸ opens) (hpaths ▸ grows.disk)
  | unopened fault => exact .unopened _ _ fault
  | refused component reason grows sink pattern faulty opens =>
    exact .rejected [] [] component reason rfl (List.forall_mem_nil _)
      (not_isAccepted pattern faulty) (hpaths ▸ opens) (hpaths ▸ grows.disk)

theorem passes_attachConfigured (l : LoggerId) (configs : List AppenderConfig) (s : Facility) :
    Passes (configs.map .appender) s.disk (s.attachConfigured l configs).1
      (s.attachConfigured l configs).2.disk := by
  induction configs generalizing s with
  | nil => exact .accepted () (List.forall_mem_nil _) (List.forall_mem_nil _) rfl
  | cons config rest ih =>
    have hfirst := passes_buildAppender config s
    rw [attachConfigured, List.map_cons, ← List.singleton_append]
    generalize s.buildAppender config = result at hfirst ⊢
    obtain ⟨outcome, t⟩ := result
    cases outcome with
    | error error => exact hfirst.stop _
    | ok a =>
      have hrest := ih (t.addAppender l a)
      rw [disk_addAppender] at hrest
      exact hfirst.append hrest

theorem passes_buildLogger (config : LoggerConfig) (s : Facility) :
    Passes config.parts s.disk (s.buildLogger config).1 (s.buildLogger config).2.disk := by
  obtain ⟨made, hprepares, hcase⟩ := configureLogger_cases config s
  rw [buildLogger_eq, LoggerConfig.parts, ← List.singleton_append]
  generalize (s.startLogger config).configureLogger ⟨s.loggers.size⟩ config = result
    at hprepares hcase ⊢
  obtain ⟨outcome, t⟩ := result
  have hdisk : t.disk = s.disk.openAll ([Part.logger config].flatMap Part.paths) := hprepares.disk
  rcases hcase with ⟨rfl, haccepted, -⟩ | ⟨p, component, reason, hpattern, hfaulty, rfl⟩
  · have hfirst : Passes [.logger config] s.disk (.ok () : Except Error Unit) t.disk :=
      .accepted () (List.forall_mem_singleton.2 haccepted) (List.forall_mem_nil _) hdisk
    have hall := hfirst.append (passes_attachConfigured ⟨s.loggers.size⟩ config.appenders t)
    dsimp only
    generalize t.attachConfigured ⟨s.loggers.size⟩ config.appenders = result at hall ⊢
    obtain ⟨outcome, u⟩ := result
    cases outcome with
    | error error => exact hall.fail
    | ok => exact hall.accept _
  · have hfirst : Passes [.logger config] s.disk
        (.error (.invalidConfiguration component reason) : Except Error Unit) t.disk :=
      .rejected [] [] component reason rfl (List.forall_mem_nil _)
        (not_isAccepted hpattern hfaulty) (List.forall_mem_nil _) hdisk
    exact hfirst.stop _

theorem passes_buildLoggers (configs : List LoggerConfig) (s : Facility) :
    Passes (configs.flatMap LoggerConfig.parts) s.disk (s.buildLoggers configs).1
      (s.buildLoggers configs).2.disk := by
  induction configs generalizing s with
  | nil => exact .accepted [] (List.forall_mem_nil _) (List.forall_mem_nil _) rfl
  | cons config rest ih =>
    have hfirst := passes_buildLogger config s
    rw [buildLoggers, List.flatMap_cons]
    generalize s.buildLogger config = result at hfirst ⊢
    obtain ⟨outcome, t⟩ := result
    cases outcome with
    | error error => exact hfirst.stop _
    | ok l =>
      have hall := hfirst.append (ih t)
      dsimp only
      generalize t.buildLoggers rest = result at hall ⊢
      obtain ⟨outcome, u⟩ := result
      cases outcome with
      | error error => exact hall
      | ok built => exact hall.accept _

end Facility

namespace Registry

open Facility

/-- When applying or building is refused as an invalid configuration, one of the patterns is faulty,
and no file has changed but those of the appenders that building came to until then. The files of the
appenders before the faulty pattern have been opened: they stand there, made where nothing stood, and
are empty. -/
theorem files_of_rejected (s : Facility) {component reason : String} :
    (∀ (r : Registry) (configs : List LoggerConfig),
      (r.apply configs s).1 = .error (.invalidConfiguration component reason) →
        Rejects (configs.flatMap LoggerConfig.parts) s.disk (r.apply configs s).2.1.disk) ∧
    ∀ config : LoggerConfig,
      (s.buildLogger config).1 = .error (.invalidConfiguration component reason) →
        Rejects config.parts s.disk (s.buildLogger config).2.disk := by
  constructor
  · intro r configs h
    have hpasses := passes_buildLoggers configs s
    rw [apply] at h ⊢
    generalize s.buildLoggers configs = result at hpasses h ⊢
    obtain ⟨outcome, t⟩ := result
    cases outcome with
    | ok built => cases h
    | error error =>
      cases h
      exact hpasses.rejects
  · intro config h
    have hpasses := passes_buildLogger config s
    rw [h] at hpasses
    exact hpasses.rejects

/-- A file that a good configuration opens is emptied though a later configuration is refused. -/
theorem file_emptied_by_rejected :
    let s : Facility := { disk := (Disk.empty.writeText "app.log" "old").2 }
    let r : Registry := { root := ⟨0⟩ }
    let result := r.apply
      [{ name := "good", appenders := [{ target := .file "app.log" }] },
        { name := "bad", pattern := some "%d\x7b%Y" }] s
    result.1 = .error (.invalidConfiguration "logger 'bad'" "invalid pattern '%d\x7b%Y'") ∧
      s.disk.content "app.log" = [0x6f, 0x6c, 0x64] ∧ result.2.1.disk.content "app.log" = [] := by
  decide +kernel

/-- The file of an appender that comes after a faulty pattern keeps its bytes, in a list of
configurations and in a single one; the file of one that comes before has been made. -/
theorem files_of_rejected_after_fault :
    let s : Facility := { disk := (Disk.empty.writeText "app.log" "old").2 }
    let r : Registry := { root := ⟨0⟩ }
    let good : LoggerConfig := { name := "good", appenders := [{ target := .file "new.log" }] }
    let bad : LoggerConfig :=
      { name := "bad"
        appenders :=
          [{ target := .console, pattern := some "%d\x7b%Y" }, { target := .file "app.log" }] }
    let result := r.apply [good, bad] s
    (Rejects (good.parts ++ bad.parts) s.disk result.2.1.disk ∧
        result.2.1.disk.content "app.log" = [0x6f, 0x6c, 0x64] ∧
        s.disk.standing? "new.log" = none ∧
        result.2.1.disk.standing? "new.log" = some (.file 1)) ∧
      Rejects bad.parts s.disk (s.buildLogger bad).2.disk ∧
      (s.buildLogger bad).2.disk.content "app.log" = [0x6f, 0x6c, 0x64] := by
  intro s r good bad result
  have happlied : result.1 =
      .error (.invalidConfiguration "stdout" "invalid pattern '%d\x7b%Y'") := by
    decide +kernel
  have hbuilt : (s.buildLogger bad).1 =
      .error (.invalidConfiguration "stdout" "invalid pattern '%d\x7b%Y'") := by
    decide +kernel
  refine ⟨⟨(files_of_rejected s).1 r [good, bad] happlied, ?_, ?_, ?_⟩,
    (files_of_rejected s).2 bad hbuilt, ?_⟩
  all_goals decide +kernel

end Registry

end EventLog
