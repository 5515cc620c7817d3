import EventLog.Facility.Build
import EventLog.Proofs.Facility.Setup

/-!
# Loggers keep their names

No operation renames a logger or takes one away (`KeepsNames`). For calls of loggers this holds
whatever ordinary actions appenders take, calls of loggers in turn included: what every such action
keeps, a whole call keeps at any depth of nesting (`KeptByActions.logWithin`).
-/

namespace EventLog

namespace Facility

/-! ## What actions keep, calls keep -/

/-- A relation between facilities that every ordinary action except a nested call brings about. -/
structure KeptByActions (R : Facility → Facility → Prop) : Prop where
  refl : ∀ s, R s s
  trans : ∀ {s t u}, R s t → R t u → R s u
  countCall : ∀ a s, R s (s.countCall a)
  deposit : ∀ a l level event s, R s (s.deposit a l level event)
  addAppender : ∀ l a s, R s (s.addAppender l a)
  delAppender : ∀ l a s, R s (s.delAppender l a)
  clearAppenders : ∀ l s, R s (s.clearAppenders l)
  setLevel : ∀ l level s, R s (s.setLevel l level)

namespace KeptByActions

variable {R : Facility → Facility → Prop} {nested : Nested}

theorem perform (h : KeptByActions R)
    (hnested : ∀ l level event s t, nested l level event s = some t → R s t) {action : Action}
    (hordinary : action.IsOrdinary) {s t : Facility} (ht : action.perform nested s = some t) :
    R s t := by
  cases action with
  | log l level event => exact hnested l level event s t ht
  | count a => exact Option.some.inj ht ▸ h.countCall a s
  | deposit a l level event => exact Option.some.inj ht ▸ h.deposit a l level event s
  | addAppender l a => exact Option.some.inj ht ▸ h.addAppender l a s
  | delAppender l a => exact Option.some.inj ht ▸ h.delAppender l a s
  | clearAppenders l => exact Option.some.inj ht ▸ h.clearAppenders l s
  | setLevel l level => exact Option.some.inj ht ▸ h.setLevel l level s
  | alter change => exact absurd rfl (hordinary change)

theorem script (h : KeptByActions R)
    (hnested : ∀ l level event s t, nested l level event s = some t → R s t) {script : Script}
    (hordinary : script.Takes Action.IsOrdinary) {s t : Facility}
    (ht : script.run nested s = some t) : R s t := by
  induction script generalizing s with
  | done => exact Option.some.inj ht ▸ h.refl s
  | step action next ih =>
    rw [Script.run] at ht
    split at ht
    · cases ht
    · next u hu => exact h.trans (h.perform hnested hordinary.1 hu) (ih u (hordinary.2 u) ht)

theorem fanOut (h : KeptByActions R)
    (hnested : ∀ l level event s t, nested l level event s = some t → R s t) {behavior : Behavior}
    (hordinary : ∀ a l level event s, (behavior a l level event s).Takes Action.IsOrdinary)
    (l : LoggerId) (level : Level) (event : Event) (appenders : List AppenderId) {s t : Facility}
    (ht : EventLog.fanOut behavior nested l level event appenders s = some t) : R s t := by
  induction appenders generalizing s with
  | nil => exact Option.some.inj ht ▸ h.refl s
  | cons a rest ih =>
    rw [EventLog.fanOut] at ht
    split at ht
    · cases ht
    · next u hu => exact h.trans (h.script hnested (hordinary ..) hu) (ih ht)

/-- A call of a logger keeps what all ordinary actions keep, whichever of them appenders take and
however deep it nests. -/
theorem logWithin (h : KeptByActions R) {behavior : Behavior}
    (hordinary : ∀ a l level event s, (behavior a l level event s).Takes Action.IsOrdinary)
    (depth : Nat) (l : LoggerId) (level : Level) (event : Event) (s t : Facility)
    (ht : EventLog.logWithin behavior depth l level event s = some t) : R s t := by
  induction depth generalizing l level event s t with
  | zero => cases ht
  | succ depth ih =>
    rw [EventLog.logWithin] at ht
    split at ht
    · exact Option.some.inj ht ▸ h.refl s
    · exact h.fanOut ih hordinary l level event _ ht

theorem log (h : KeptByActions R) (l : LoggerId) (level : Level) (event : Event) (s : Facility) :
    R s (s.log l level event) :=
  h.logWithin takes_appenderScript 2 l level event s _ (Option.some_get _).symm

end KeptByActions

/-! ## Names -/

/-- Every logger that was there is there, under the name it had. -/
structure KeepsNames (s t : Facility) : Prop where
  size : s.loggers.size ≤ t.loggers.size
  name : ∀ l : LoggerId, l.index < s.loggers.size → (t.logger l).name = (s.logger l).name

namespace KeepsNames

variable {s t u : Facility}

theorem of_loggers (h : t.loggers = s.loggers) : KeepsNames s t :=
  ⟨Nat.le_of_eq (by rw [h]), fun l _ => by rw [logger, logger, h]⟩

theorem refl (s : Facility) : KeepsNames s s := .of_loggers rfl

theorem trans (h : KeepsNames s t) (h' : KeepsNames t u) : KeepsNames s u where
  size := Nat.le_trans h.size h'.size
  name l hl := (h'.name l (Nat.lt_of_lt_of_le hl h.size)).trans (h.name l hl)

theorem modifyLogger (s : Facility) (l : LoggerId) {change : Logger → Logger}
    (hchange : ∀ entry, (change entry).name = entry.name) :
    KeepsNames s (s.modifyLogger l change) where
  size := Nat.le_of_eq (size_modifyLogger s l change).symm
  name k _ := logger_modifyLogger_of_keeps Logger.name hchange s l k

theorem setLayout (s : Facility) (l : LoggerId) (layout : SharedLayout) :
    KeepsNames s (s.setLayout l layout) :=
  .modifyLogger s l fun _ => rfl

theorem newLogger (s : Facility) (name : String) : KeepsNames s (s.newLogger name).2 where
  size := by
    show s.loggers.size ≤ (s.loggers.push _).size
    rw [Store.size_push]
    omega
  name l hl := by
    rw [logger_newLogger, if_neg (by omega)]

theorem addAppender (l : LoggerId) (a : AppenderId) (s : Facility) :
    KeepsNames s (s.addAppender l a) := by
  have hinherit : KeepsNames s (s.inherit l a) := by
    rw [inherit]
    split
    · exact .of_loggers rfl
    · exact .refl s
  exact hinherit.trans (.modifyLogger _ l fun _ => rfl)

theorem addAppenders (l : LoggerId) (appenders : List AppenderId) (s : Facility) :
    KeepsNames s (s.addAppenders l appenders) := by
  induction appenders generalizing s with
  | nil => exact .refl s
  | cons a rest ih => exact (addAppender l a s).trans (ih (s.addAppender l a))

theorem keptByActions : KeptByActions KeepsNames where
  refl := refl
  trans := trans
  countCall a s := .of_loggers (writes_countCall a s).loggers
  deposit a l level event s := .of_loggers (writes_deposit a s l level event).loggers
  addAppender := addAppender
  delAppender l _ s := .modifyLogger s l fun _ => rfl
  clearAppenders l s := .modifyLogger s l fun _ => rfl
  setLevel l _ s := .modifyLogger s l fun _ => rfl

theorem compile (s : Facility) (pattern : String) : KeepsNames s (s.compile pattern).2 :=
  .of_loggers rfl

theorem setPattern (l : LoggerId) (pattern : String) (s : Facility) :
    KeepsNames s (s.setPattern l pattern).2 := by
  rw [setPattern_snd]
  split
  · exact .compile s pattern
  · exact (compile s pattern).trans (.setLayout _ l _)

theorem newFile (path : String) (s : Facility) :
    KeepsNames s
      ((s.newAppender (.file { path })).2.reopen (s.newAppender (.file { path })).1).2 :=
  .of_loggers (writes_reopen _ (s.newAppender (.file { path })).2).loggers

/-- No operation renames a logger or takes one away. -/
theorem perform (s : Facility) (operation : Operation) : KeepsNames s (s.perform operation) := by
  cases operation with
  | newLogger name => exact .newLogger s name
  | setLevel l level => exact .modifyLogger s l fun _ => rfl
  | setLayout l layout => exact .setLayout s l layout
  | setPattern l pattern => exact .setPattern l pattern s
  | addAppender l a => exact .addAppender l a s
  | delAppender l a => exact .modifyLogger s l fun _ => rfl
  | clearAppenders l => exact .modifyLogger s l fun _ => rfl
  | flush l => exact .of_loggers (sameSetup_flushAll s _).loggers
  | log l level event => exact keptByActions.log l level event s
  | newFile path =>
    obtain ⟨diagnostic, h⟩ := exists_newFileAppender_snd path s
    rw [Facility.perform, h]
    exact (newFile path s).trans (.of_loggers rfl)
  | openFile path =>
    rw [Facility.perform, openFileAppender_snd]
    exact newFile path s
  | take a => exact .of_loggers (writes_take a s).loggers
  | flushAppender a => exact .of_loggers (writes_flushAppender a s).loggers
  | reopen a => exact .of_loggers (writes_reopen a s).loggers
  | resetMetrics a => exact .of_loggers (writes_resetMetrics a s).loggers
  | _ => exact .of_loggers rfl

theorem run (s : Facility) (operations : List Operation) : KeepsNames s (s.run operations) := by
  induction operations generalizing s with
  | nil => exact .refl s
  | cons operation rest ih => exact (perform s operation).trans (ih (s.perform operation))

theorem build (s : Facility) (builder : LoggerBuilder) : KeepsNames s (s.build builder).2 := by
  have hstart : KeepsNames s
      ((s.newLogger builder.name).2.setLevel ⟨s.loggers.size⟩ builder.level) :=
    (newLogger s builder.name).trans (.modifyLogger _ _ fun _ => rfl)
  rw [Facility.build]
  dsimp only
  cases builder.pattern with
  | none => exact hstart.trans (addAppenders _ _ _)
  | some pattern =>
    have hcompile := hstart.trans (.compile _ pattern)
    exact (hcompile.trans (.setLayout _ _ _)).trans (addAppenders _ _ _)

end KeepsNames

end Facility

end EventLog
