import Mathlib.Data.List.Induction
import EventLog.Registry
import EventLog.Proofs.Facility.Build

/-!
# Applying configurations

All configured loggers are built before any of them is taken in, so a configuration that cannot be
built leaves the registry as it was, and with it every logger and every appender (`Extends`).

Loggers that were built are taken in one after the other. One that is named `root` passes its settings
to the root logger, which stays the same object (`Reconfigures`); any other takes its place in the
table. So of several configurations for a name the last one counts, wherever it stands among those for
other names (`Registry.Applied`).
-/

namespace EventLog

open Config

namespace Facility

/-! ## Taking over settings -/

/-- The second facility comes from the first by other settings of one logger. -/
structure Reconfigures (root : LoggerId) (s t : Facility) : Prop where
  nextStamp : t.nextStamp = s.nextStamp
  appenders : t.appenders = s.appenders
  loggersSize : t.loggers.size = s.loggers.size
  name : (t.logger root).name = (s.logger root).name
  others : ∀ l, l ≠ root → t.logger l = s.logger l

namespace Reconfigures

variable {root : LoggerId} {s t u : Facility}

theorem refl (root : LoggerId) (s : Facility) : Reconfigures root s s :=
  ⟨rfl, rfl, rfl, rfl, fun _ _ => rfl⟩

theorem trans (h : Reconfigures root s t) (h' : Reconfigures root t u) : Reconfigures root s u where
  nextStamp := h'.nextStamp.trans h.nextStamp
  appenders := h'.appenders.trans h.appenders
  loggersSize := h'.loggersSize.trans h.loggersSize
  name := h'.name.trans h.name
  others l hl := (h'.others l hl).trans (h.others l hl)

theorem appender (h : Reconfigures root s t) (a : AppenderId) : t.appender a = s.appender a := by
  rw [Facility.appender, Facility.appender, h.appenders]

/-- A change of one logger that keeps its name. -/
theorem modifyLogger (root : LoggerId) (s : Facility) {change : Logger → Logger}
    (hname : ∀ entry, (change entry).name = entry.name) :
    Reconfigures root s (s.modifyLogger root change) where
  nextStamp := rfl
  appenders := rfl
  loggersSize := size_modifyLogger s root change
  name := logger_modifyLogger_of_keeps Logger.name hname s root root
  others _ hl := logger_modifyLogger_of_ne hl s change

/-- The names of all loggers stay. -/
theorem name_eq (h : Reconfigures root s t) (l : LoggerId) :
    (t.logger l).name = (s.logger l).name := by
  by_cases hl : l = root
  · rw [hl, h.name]
  · rw [h.others l hl]

end Reconfigures

/-- An appender that has a layout is attached as it is. -/
theorem addAppender_of_isSome {a : AppenderId} {s : Facility}
    (h : (s.appender a).layout.isSome = true) (l : LoggerId) :
    s.addAppender l a =
      s.modifyLogger l fun logger => { logger with appenders := logger.appenders ++ [a] } := by
  have hnone : ¬ (s.appender a).layout.isNone = true := by
    rw [Option.isNone_iff_eq_none, ← Option.not_isSome_iff_eq_none, not_not]
    exact h
  rw [addAppender, inherit, if_neg hnone]

/-- Attaching appenders that have layouts changes no more than the list of the logger. -/
theorem reconfigures_addAppenders {l : LoggerId} {appenders : List AppenderId} {s : Facility}
    (hl : l.index < s.loggers.size)
    (h : ∀ a ∈ appenders, (s.appender a).layout.isSome = true) :
    Reconfigures l s (s.addAppenders l appenders) ∧
      (s.addAppenders l appenders).logger l =
        { s.logger l with appenders := (s.logger l).appenders ++ appenders } := by
  induction appenders generalizing s with
  | nil => exact ⟨.refl l s, by rw [List.append_nil]; rfl⟩
  | cons a rest ih =>
    rw [List.forall_mem_cons] at h
    obtain ⟨hfirst, hrest⟩ := h
    have hadded : s.addAppenders l (a :: rest) = (s.addAppender l a).addAppenders l rest := rfl
    have hone : Reconfigures l s (s.addAppender l a) := by
      rw [addAppender_of_isSome hfirst]
      exact .modifyLogger l s fun _ => rfl
    have hself : (s.addAppender l a).logger l =
        { s.logger l with appenders := (s.logger l).appenders ++ [a] } := by
      rw [addAppender_of_isSome hfirst, logger_modifyLogger_self hl]
    obtain ⟨hmore, hend⟩ := ih (s := s.addAppender l a) (hone.loggersSize ▸ hl)
      fun b hb => by rw [hone.appender]; exact hrest b hb
    refine ⟨hadded ▸ hone.trans hmore, ?_⟩
    rw [hadded, hend, hself]
    simp

/-- A logger takes over all settings of another, whose appenders have layouts, and keeps its name. -/
theorem reconfigures_adopt {target source : LoggerId} {s : Facility}
    (ht : target.index < s.loggers.size)
    (h : ∀ a ∈ (s.logger source).appenders, (s.appender a).layout.isSome = true) :
    Reconfigures target s (Registry.adopt target source s) ∧
      (Registry.adopt target source s).logger target =
        { s.logger source with name := (s.logger target).name } := by
  have hlevel : Reconfigures target s (s.setLevel target (s.logger source).level) :=
    .modifyLogger target s fun _ => rfl
  have hlayout : Reconfigures target s
      ((s.setLevel target (s.logger source).level).setLayout target (s.logger source).layout) :=
    hlevel.trans (.modifyLogger target _ fun _ => rfl)
  have hclear : Reconfigures target s (((s.setLevel target (s.logger source).level).setLayout target
      (s.logger source).layout).clearAppenders target) :=
    hlayout.trans (.modifyLogger target _ fun _ => rfl)
  have hcleared : (((s.setLevel target (s.logger source).level).setLayout target
      (s.logger source).layout).clearAppenders target).logger target =
      { s.logger source with name := (s.logger target).name, appenders := [] } := by
    rw [clearAppenders, logger_modifyLogger_self (hlayout.loggersSize ▸ ht), setLayout,
      logger_modifyLogger_self (hlevel.loggersSize ▸ ht), setLevel, logger_modifyLogger_self ht]
  obtain ⟨hadds, hend⟩ := reconfigures_addAppenders (hclear.loggersSize ▸ ht)
    fun a ha => by rw [hclear.appender]; exact h a ha
  refine ⟨hclear.trans hadds, hend.trans ?_⟩
  rw [hcleared, List.nil_append]

/-- A logger that was built is still as it was built after another one was reconfigured. -/
theorem BuiltSince.of_reconfigures [Calendar] {root l : LoggerId} {r s t : Facility}
    {config : LoggerConfig} (h : BuiltSince r config s l) (ht : Reconfigures root s t) (hl : l ≠ root) :
    BuiltSince r config t l :=
  h.of_kept (ht.others l hl) (Nat.le_of_eq ht.loggersSize.symm)
    (Nat.le_of_eq (by rw [ht.appenders])) fun a _ => ht.appender a

end Facility

namespace Registry

open Facility

/-! ## Taking in one logger -/

/-- The root logger and all that are registered have been made. -/
def Present (r : Registry) (s : Facility) : Prop := ∀ name, (r.get name).index < s.loggers.size

theorem Present.root {r : Registry} {s : Facility} (h : r.Present s) :
    r.root.index < s.loggers.size := by
  have hroot := h rootName
  rwa [get, if_pos rfl] at hroot

/-- A logger that can be taken in: it is not the root itself, and its appenders have layouts. -/
structure Enrollable (root : LoggerId) (s : Facility) (l : LoggerId) : Prop where
  ne : l ≠ root
  layouts : ∀ a ∈ (s.logger l).appenders, (s.appender a).layout.isSome = true

theorem Enrollable.of_reconfigures {root l : LoggerId} {s t : Facility} (h : Enrollable root s l)
    (ht : Reconfigures root s t) : Enrollable root t l := by
  refine ⟨h.ne, fun a ha => ?_⟩
  rw [ht.others l h.ne] at ha
  rw [ht.appender]
  exact h.layouts a ha

/-- A registry with its root logger and loggers that can be taken in. -/
structure Ready (root : LoggerId) (built : List LoggerId) (s : Facility) (r : Registry) : Prop where
  same : r.root = root
  isThere : root.index < s.loggers.size
  enrollable : ∀ l ∈ built, Enrollable root s l

section

variable {r : Registry} {s : Facility} {root l : LoggerId} {rest : List LoggerId}

theorem enroll_of_root (h : (s.logger l).name = rootName) :
    r.enroll l s = (adopt r.root l s, r) := by
  rw [enroll, if_pos h]

theorem enroll_of_ne (h : (s.logger l).name ≠ rootName) :
    r.enroll l s = (s, { r with entries := r.entries.insert (s.logger l).name l }) := by
  rw [enroll, if_neg h, add, if_neg h]

/-- Taking in a logger keeps the root and changes no other logger. -/
theorem Ready.enroll (h : Ready root (l :: rest) s r) :
    Reconfigures root s (r.enroll l s).1 ∧ Ready root rest (r.enroll l s).1 (r.enroll l s).2 := by
  obtain ⟨rfl, hthere, hall⟩ := h
  rw [List.forall_mem_cons] at hall
  obtain ⟨hfirst, hrest⟩ := hall
  by_cases hname : (s.logger l).name = rootName
  · obtain ⟨hadopts, -⟩ := reconfigures_adopt hthere hfirst.layouts
    rw [enroll_of_root hname]
    exact ⟨hadopts, rfl, hadopts.loggersSize ▸ hthere,
      fun k hk => (hrest k hk).of_reconfigures hadopts⟩
  · rw [enroll_of_ne hname]
    exact ⟨.refl _ s, rfl, hthere, hrest⟩

/-- Taking in a logger changes nothing for any other name than its own. -/
theorem find?_enroll_of_ne {name : String} (h : (s.logger l).name ≠ name) :
    (r.enroll l s).2.entries.find? name = r.entries.find? name := by
  by_cases hname : (s.logger l).name = rootName
  · rw [enroll_of_root hname]
  · rw [enroll_of_ne hname, Names.find?_insert, if_neg (Ne.symm h)]

end

/-! ## Taking in loggers in order -/

theorem enrollAll_cons (l : LoggerId) (rest : List LoggerId) (s : Facility) (r : Registry) :
    r.enrollAll (l :: rest) s = (r.enroll l s).2.enrollAll rest (r.enroll l s).1 := rfl

theorem enrollAll_append (before after : List LoggerId) (s : Facility) (r : Registry) :
    r.enrollAll (before ++ after) s =
      (r.enrollAll before s).2.enrollAll after (r.enrollAll before s).1 := by
  rw [enrollAll, List.foldl_append]
  rfl

section

variable {before after built : List LoggerId} {r : Registry} {s : Facility} {root l : LoggerId}

/-- Taking in the first of several loggers leaves the others to be taken in. -/
theorem Ready.enrollAll (h : Ready root (before ++ after) s r) :
    Reconfigures root s (r.enrollAll before s).1 ∧
      Ready root after (r.enrollAll before s).1 (r.enrollAll before s).2 := by
  induction before generalizing r s with
  | nil => exact ⟨.refl root s, h⟩
  | cons l rest ih =>
    obtain ⟨hone, hready⟩ := h.enroll
    obtain ⟨hmore, hend⟩ := ih hready
    rw [enrollAll_cons]
    exact ⟨hone.trans hmore, hend⟩

theorem Ready.enrollAll_all (h : Ready root built s r) :
    Reconfigures root s (r.enrollAll built s).1 ∧ (r.enrollAll built s).2.root = root := by
  have hnil : Ready root (built ++ []) s r := by
    rw [List.append_nil]
    exact h
  obtain ⟨hkept, hend⟩ := hnil.enrollAll
  exact ⟨hkept, hend.same⟩

/-- Names that no logger of the list has mean what they did. -/
theorem find?_enrollAll_of_unlisted {name : String} (h : Ready root built s r)
    (hname : ∀ l ∈ built, (s.logger l).name ≠ name) :
    (r.enrollAll built s).2.entries.find? name = r.entries.find? name := by
  induction built generalizing r s with
  | nil => rfl
  | cons l rest ih =>
    rw [List.forall_mem_cons] at hname
    obtain ⟨hkept, hready⟩ := h.enroll
    rw [enrollAll_cons, ih hready fun k hk => by rw [hkept.name_eq]; exact hname.2 k hk]
    exact find?_enroll_of_ne hname.1

/-- Without a logger that has its name the root logger stays as it is. -/
theorem logger_enrollAll_of_unlisted (h : Ready root built s r)
    (hname : ∀ l ∈ built, (s.logger l).name ≠ rootName) :
    (r.enrollAll built s).1.logger root = s.logger root := by
  induction built generalizing r s with
  | nil => rfl
  | cons l rest ih =>
    rw [List.forall_mem_cons] at hname
    obtain ⟨hkept, hready⟩ := h.enroll
    rw [enrollAll_cons, ih hready fun k hk => by rw [hkept.name_eq]; exact hname.2 k hk,
      enroll_of_ne hname.1]

/-- Of several loggers of one name the last one that is taken in has it. -/
theorem find?_enrollAll_of_last (h : Ready root (before ++ l :: after) s r)
    (hname : (s.logger l).name ≠ rootName)
    (hlast : ∀ k ∈ after, (s.logger k).name ≠ (s.logger l).name) :
    (r.enrollAll (before ++ l :: after) s).2.entries.find? (s.logger l).name = some l := by
  obtain ⟨hbefore, hready⟩ := h.enrollAll
  obtain ⟨hone, hready'⟩ := hready.enroll
  rw [← hbefore.name_eq] at hname
  rw [enrollAll_append, enrollAll_cons, find?_enrollAll_of_unlisted hready', enroll_of_ne hname,
    ← hbefore.name_eq, Names.find?_insert, if_pos rfl]
  intro k hk
  rw [hone.name_eq, hbefore.name_eq]
  exact hlast k hk

/-- Of several loggers named as the root the last one that is taken in gives it its settings. -/
theorem logger_enrollAll_of_last (h : Ready root (before ++ l :: after) s r)
    (hname : (s.logger l).name = rootName)
    (hlast : ∀ k ∈ after, (s.logger k).name ≠ rootName) :
    (r.enrollAll (before ++ l :: after) s).1.logger root =
      { s.logger l with name := (s.logger root).name } := by
  obtain ⟨hbefore, hready⟩ := h.enrollAll
  obtain ⟨hone, hready'⟩ := hready.enroll
  have hl : Enrollable root (r.enrollAll before s).1 l :=
    hready.enrollable l List.mem_cons_self
  rw [← hbefore.name_eq] at hname
  have hadopts := (reconfigures_adopt hready.isThere hl.layouts).2
  rw [hbefore.others l hl.ne, hbefore.name_eq] at hadopts
  rw [enrollAll_append, enrollAll_cons, logger_enrollAll_of_unlisted hready', enroll_of_root hname,
    hready.same]
  · exact hadopts
  · intro k hk
    rw [hone.name_eq, hbefore.name_eq]
    exact hlast k hk

end

/-! ## Applying -/

/-- The registry after all configurations were built and taken in. -/
structure Applied (attempts : List Attempt) (s : Facility) (r : Registry) (t : Facility)
    (r' : Registry) : Prop where
  /-- The root logger is the same object. -/
  root : r'.root = r.root
  /-- A name that is configured means what was built for the last configuration that has it. -/
  registered : ∀ before attempt after, attempts = before ++ attempt :: after →
    attempt.config.name ≠ rootName →
    (∀ later ∈ after, later.config.name ≠ attempt.config.name) →
    r'.contains attempt.config.name = true ∧
      attempt.Gave s t (r'.get attempt.config.name)
  /-- A name that is not configured means what it did. -/
  unlisted : ∀ name, (∀ attempt ∈ attempts, attempt.config.name ≠ name) →
    r'.contains name = r.contains name ∧ r'.get name = r.get name
  /-- Whoever holds the root logger sees the settings of what was built for the last configuration
  that is named as the root. -/
  reconfigured : ∀ before attempt after, attempts = before ++ attempt :: after →
    attempt.config.name = rootName → (∀ later ∈ after, later.config.name ≠ rootName) →
    ∃ l, attempt.Gave s t l ∧
      ∀ handle, handle = r.root ∨ (∃ name, r.contains name = false ∧ handle = r.get name) →
        t.logger handle = { attempt.left.logger l with name := (s.logger r.root).name } ∧
          attempt.config.Describes t (t.logger handle)
  /-- Without such a configuration the root logger is as it was. -/
  rootKept : (∀ attempt ∈ attempts, attempt.config.name ≠ rootName) →
    t.logger r.root = s.logger r.root
  others : ∀ l : LoggerId, l.index < s.loggers.size → l ≠ r.root → t.logger l = s.logger l
  appender : ∀ a : AppenderId, a.index < s.appenders.size → t.appender a = s.appender a

/-- A name that is not listed means the root logger. -/
theorem get_of_not_contains {r : Registry} {name : String} (h : r.contains name = false) :
    r.get name = r.root := by
  rw [get]
  split
  · rfl
  · next hne =>
    simp only [contains, ne_eq, hne, not_false_eq_true, decide_true, Bool.true_and] at h
    rw [Option.isSome_eq_false_iff, Option.isNone_iff_eq_none] at h
    rw [h, Option.getD_none]

theorem contains_of_ne {r : Registry} {name : String} (h : name ≠ rootName) :
    r.contains name = (r.entries.find? name).isSome := by
  simp [contains, h]

theorem get_of_ne {r : Registry} {name : String} (h : name ≠ rootName) :
    r.get name = (r.entries.find? name).getD r.root := by
  rw [get, if_neg h]

/-- A split of the attempts splits what they gave. -/
theorem exists_split_built {R : Attempt → LoggerId → Prop} {before after : List Attempt}
    {attempt : Attempt} {built : List LoggerId}
    (h : List.Forall₂ R (before ++ attempt :: after) built) :
    ∃ earlier l later, built = earlier ++ l :: later ∧ R attempt l ∧ List.Forall₂ R after later := by
  have hdrop := List.forall₂_drop_append _ _ _ h.flip
  obtain ⟨l, later, hl, hlater, heq⟩ := List.forall₂_cons_left_iff.1 hdrop.flip
  refine ⟨built.take before.length, l, later, ?_, hl, hlater⟩
  rw [← heq, List.take_append_drop]

/-- Everything on the right of two related lists is related to something on the left. -/
theorem exists_left_of_mem {α β : Type} {R : α → β → Prop} {lefts : List α} {rights : List β}
    (h : List.Forall₂ R lefts rights) {right : β} (hright : right ∈ rights) :
    ∃ left ∈ lefts, R left right := by
  induction h with
  | nil => exact absurd hright List.not_mem_nil
  | cons hfirst hrest ih =>
    rcases List.mem_cons.1 hright with rfl | hright
    · exact ⟨_, List.mem_cons_self, hfirst⟩
    · obtain ⟨left, hmem, hleft⟩ := ih hright
      exact ⟨left, List.mem_cons_of_mem _ hmem, hleft⟩

section

variable {attempts : List Attempt} {built : List LoggerId} {r : Registry} {s t : Facility}

/-- What was built can be taken in. -/
theorem ready_of_gave (hr : r.Present s) (hextends : Extends s t)
    (hall : List.Forall₂ (fun attempt l => attempt.Gave s t l) attempts built) :
    Ready r.root built t r := by
  refine ⟨rfl, Nat.lt_of_lt_of_le hr.root hextends.loggersSize, fun l hl => ?_⟩
  obtain ⟨attempt, -, hgave⟩ := exists_left_of_mem hall hl
  refine ⟨?_, hgave.isSome_layout⟩
  rintro rfl
  exact absurd hr.root (Nat.not_lt_of_le hgave.loggerIsNew)

/-- What was built bears names that no configuration but its own has given. -/
theorem name_ne_of_gave {name : String}
    (hall : List.Forall₂ (fun attempt l => attempt.Gave s t l) attempts built)
    (hname : ∀ attempt ∈ attempts, attempt.config.name ≠ name) :
    ∀ l ∈ built, (t.logger l).name ≠ name := by
  intro l hl
  obtain ⟨attempt, hmem, hgave⟩ := exists_left_of_mem hall hl
  rw [hgave.name]
  exact hname attempt hmem

/-- Taking in what was built leaves it as it was built. -/
theorem gave_of_reconfigures {attempt : Attempt} {root l : LoggerId} {u : Facility}
    (h : attempt.Gave s t l) (hu : Reconfigures root t u) (hl : l ≠ root) : attempt.Gave s u l where
  toBuiltSince := h.toBuiltSince.of_reconfigures hu hl
  outcome := h.outcome
  kept := (hu.others l hl).trans h.kept

/-- What was built for the last configuration of a name is registered under the name. -/
theorem registered_of_gave {before after : List Attempt} {attempt : Attempt} (hr : r.Present s)
    (hextends : Extends s t)
    (hall : List.Forall₂ (fun attempt l => attempt.Gave s t l) (before ++ attempt :: after) built)
    (hname : attempt.config.name ≠ rootName)
    (hlast : ∀ later ∈ after, later.config.name ≠ attempt.config.name) :
    (r.enrollAll built t).2.contains attempt.config.name = true ∧
      attempt.Gave s (r.enrollAll built t).1
        ((r.enrollAll built t).2.get attempt.config.name) := by
  have hready := ready_of_gave hr hextends hall
  obtain ⟨hkept, -⟩ := hready.enrollAll_all
  obtain ⟨earlier, l, later, rfl, hgave, hafter⟩ := exists_split_built hall
  have hl : l ≠ r.root := (hready.enrollable l (by simp)).ne
  have hfind := find?_enrollAll_of_last hready (hgave.name ▸ hname)
    (hgave.name ▸ name_ne_of_gave hafter hlast)
  rw [hgave.name] at hfind
  rw [contains_of_ne hname, get_of_ne hname, hfind]
  exact ⟨rfl, gave_of_reconfigures hgave hkept hl⟩

/-- What was built for the last configuration that is named as the root gives it its settings. -/
theorem reconfigured_of_gave {before after : List Attempt} {attempt : Attempt} (hr : r.Present s)
    (hextends : Extends s t)
    (hall : List.Forall₂ (fun attempt l => attempt.Gave s t l) (before ++ attempt :: after) built)
    (hname : attempt.config.name = rootName)
    (hlast : ∀ later ∈ after, later.config.name ≠ rootName) :
    ∃ l, attempt.Gave s (r.enrollAll built t).1 l ∧
      (r.enrollAll built t).1.logger r.root =
        { attempt.left.logger l with name := (s.logger r.root).name } ∧
      attempt.config.Describes (r.enrollAll built t).1
        ((r.enrollAll built t).1.logger r.root) := by
  have hready := ready_of_gave hr hextends hall
  obtain ⟨hkept, -⟩ := hready.enrollAll_all
  obtain ⟨earlier, l, later, rfl, hgave, hafter⟩ := exists_split_built hall
  have hl : l ≠ r.root := (hready.enrollable l (by simp)).ne
  have hgave' := gave_of_reconfigures hgave hkept hl
  have hself := logger_enrollAll_of_last hready (hgave.name.trans hname)
    (name_ne_of_gave hafter hlast)
  rw [hextends.logger r.root hr.root, ← hkept.others l hl, hgave'.kept] at hself
  have hdescribes := hgave'.describes
  rw [hgave'.kept] at hdescribes
  refine ⟨l, hgave', hself, ?_⟩
  -- A description says nothing of the name, which alone is not taken over.
  rw [hself]
  exact { hdescribes with }

theorem applied_of_gave (hr : r.Present s) (hextends : Extends s t)
    (hall : List.Forall₂ (fun attempt l => attempt.Gave s t l) attempts built) :
    Applied attempts s r (r.enrollAll built t).1 (r.enrollAll built t).2 := by
  have hready := ready_of_gave hr hextends hall
  obtain ⟨hkept, hroot⟩ := hready.enrollAll_all
  refine ⟨hroot, ?_, ?_, ?_, ?_, ?_, ?_⟩
  · rintro before attempt after rfl hname hlast
    exact registered_of_gave hr hextends hall hname hlast
  · intro name hname
    by_cases hname' : name = rootName
    · subst hname'
      exact ⟨rfl, hroot⟩
    · rw [contains_of_ne hname', contains_of_ne hname', get_of_ne hname', get_of_ne hname', hroot,
        find?_enrollAll_of_unlisted hready (name_ne_of_gave hall hname)]
      exact ⟨rfl, rfl⟩
  · rintro before attempt after rfl hname hlast
    obtain ⟨l, hgave, hself, hdescribes⟩ := reconfigured_of_gave hr hextends hall hname hlast
    refine ⟨l, hgave, fun handle hhandle => ?_⟩
    have hsame : handle = r.root := by
      rcases hhandle with rfl | ⟨name, hnot, rfl⟩
      · rfl
      · exact get_of_not_contains hnot
    rw [hsame]
    exact ⟨hself, hdescribes⟩
  · intro hname
    rw [logger_enrollAll_of_unlisted hready (name_ne_of_gave hall hname),
      hextends.logger r.root hr.root]
  · intro l hl hne
    rw [hkept.others l hne, hextends.logger l hl]
  · intro a ha
    rw [hkept.appender, hextends.appender a ha]

end

/-- If some configuration cannot be built, applying gives the error of the first and changes neither
the registry nor any logger or appender. If all can be built, the last one for each name counts. -/
theorem apply_all_or_nothing (configs : List LoggerConfig) {s : Facility} {r : Registry}
    (hr : r.Present s) :
    ((∃ attempt ∈ s.attempts configs, ¬ attempt.Succeeds) →
      ∃ before attempt after error, s.attempts configs = before ++ attempt :: after ∧
        (∀ earlier ∈ before, earlier.Succeeds) ∧ attempt.outcome = .error error ∧
        (r.apply configs s).1 = .error error ∧ (r.apply configs s).2.2 = r ∧
        Extends s (r.apply configs s).2.1 ∧
        ∀ name, (r.apply configs s).2.1.logger (r.get name) = s.logger (r.get name)) ∧
    ((∀ attempt ∈ s.attempts configs, attempt.Succeeds) →
      (r.apply configs s).1 = .ok () ∧
        Applied (s.attempts configs) s r (r.apply configs s).2.1 (r.apply configs s).2.2) := by
  obtain ⟨hextends, hcase⟩ := buildLoggers_cases configs s
  rw [apply]
  generalize s.buildLoggers configs = result at hextends hcase ⊢
  obtain ⟨outcome, t⟩ := result
  rcases hcase with ⟨built, hok, hall⟩ |
    ⟨before, attempt, after, error, heq, hbefore, hfails, herror⟩
  · cases hok
    refine ⟨?_, fun _ => ⟨rfl, applied_of_gave hr hextends hall⟩⟩
    rintro ⟨attempt, hmem, hfails⟩
    obtain ⟨l, -, hgave⟩ := exists_left_of_mem hall.flip hmem
    exact absurd (by rw [Attempt.Succeeds, hgave.outcome]; rfl) hfails
  · cases herror
    refine ⟨fun _ => ⟨before, attempt, after, error, heq, hbefore, hfails, rfl, rfl, hextends,
      fun name => hextends.logger _ (hr name)⟩, fun hall => ?_⟩
    have hok : attempt.Succeeds := hall attempt (by rw [heq]; simp)
    rw [Attempt.Succeeds, hfails] at hok
    cases hok

/-- Of two configurations for `db` the later one counts, the root takes what the one between them
says, and a faulty pattern at the end undoes both. -/
theorem apply_of_repeated_name :
    let s : Facility := (Registry.new {}).2
    let r : Registry := (Registry.new {}).1
    let configs : List LoggerConfig :=
      [{ name := "db", level := .info },
        { name := "root", level := .error, appenders := [{ target := .console }] },
        { name := "db", level := .warn }]
    let result := r.apply configs s
    let refused := r.apply (configs ++ [{ name := "net", pattern := some "%d\x7b%Y" }]) s
    (result.1 = .ok () ∧ (result.2.1.logger (result.2.2.get "db")).level = .warn ∧
        result.2.2.root = r.root ∧ (result.2.1.logger r.root).level = .error) ∧
      refused.2.2 = r ∧ refused.2.1.logger r.root = s.logger r.root := by
  intro s r configs result refused
  have hpresent : r.Present s := by
    intro name
    have hget : r.get name = r.root := by
      rw [get]
      split <;> rfl
    rw [hget]
    decide
  have hall : ∀ attempt ∈ s.attempts configs, attempt.Succeeds := by
    decide +kernel
  obtain ⟨hok, happlied⟩ := (apply_all_or_nothing configs hpresent).2 hall
  have hconfigs := map_config_attempts configs s
  generalize s.attempts configs = attempts at happlied hconfigs
  simp only [configs, List.map_eq_cons_iff, List.map_eq_nil_iff] at hconfigs
  obtain ⟨first, _, rfl, -, second, _, rfl, hsecond, third, _, rfl, hthird, rfl⟩ := hconfigs
  obtain ⟨-, hlast⟩ := happlied.registered [first, second] third [] rfl (by rw [hthird]; decide)
    fun later hlater => absurd hlater List.not_mem_nil
  have hdb := hlast.describes.level
  rw [hthird] at hdb
  obtain ⟨l, -, hroot⟩ := happlied.reconfigured [first] second [third] rfl (by rw [hsecond]; rfl)
    (by rw [List.forall_mem_singleton, hthird]; decide)
  have hlevel := (hroot r.root (.inl rfl)).2.level
  rw [hsecond] at hlevel
  have hfails : ∃ attempt ∈ s.attempts (configs ++ [{ name := "net", pattern := some "%d\x7b%Y" }]),
      ¬ attempt.Succeeds := by
    decide +kernel
  obtain ⟨_, _, _, _, -, -, -, -, hsame, hextends, -⟩ :=
    (apply_all_or_nothing _ hpresent).1 hfails
  dsimp only [result, refused]
  refine ⟨⟨hok, hdb, happlied.root, hlevel⟩, hsame, ?_⟩
  exact hextends.logger r.root hpresent.root

end Registry

end EventLog
