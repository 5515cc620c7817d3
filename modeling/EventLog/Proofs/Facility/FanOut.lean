import EventLog.Proofs.Facility.Frame

/-!
# A call of a logger without nested calls

As long as no observer echoes, no appender calls a logger while it is called itself (`Quiet`). A call
of a logger is then a fold of `visit` over the appenders of its list (`log_of_quiet`): each entry is
visited once, in order, and a visit writes to the sink of its appender only. What an observer does to
the logger after that changes neither how events are shown nor which appenders are visited.

When observers moreover only keep what they are given, as the sinks of this library do, no visit
changes the setup at all (`Passive`).
-/

namespace EventLog

namespace Facility

/-- Every observer reacts in one of certain ways. -/
def ReactsIn (allowed : Reaction → Prop) (s : Facility) : Prop :=
  ∀ a reaction, (s.appender a).sink.reaction? = some reaction → allowed reaction

/-- No appender calls a logger while it is called. -/
abbrev Quiet (s : Facility) : Prop := s.ReactsIn (· ≠ .echo)

/-- All appenders only keep, show or write what they are given. -/
abbrev Passive (s : Facility) : Prop := s.ReactsIn fun r => r = .keep ∨ r = .upperCase

theorem Passive.quiet {s : Facility} (h : s.Passive) : s.Quiet := by
  intro a reaction hr he
  subst he
  rcases h a _ hr with h | h <;> cases h

/-- Facilities with the same kinds of sinks react in the same ways. -/
theorem ReactsIn.of_reaction {allowed : Reaction → Prop} {s t : Facility} (h : s.ReactsIn allowed)
    (hr : ∀ a, (t.appender a).sink.reaction? = (s.appender a).sink.reaction?) :
    t.ReactsIn allowed := by
  intro a reaction ha
  rw [hr a] at ha
  exact h a reaction ha

theorem ReactsIn.of_writes {allowed : Reaction → Prop} {s t : Facility} {a : AppenderId}
    (h : s.ReactsIn allowed) (hw : Writes a s t) : t.ReactsIn allowed :=
  h.of_reaction hw.reaction

/-- A new appender of this library leaves the ways of reacting as they are. -/
theorem ReactsIn.newAppender {allowed : Reaction → Prop} {s : Facility} (h : s.ReactsIn allowed)
    {sink : Sink} (hsink : sink.reaction? = none) : (s.newAppender sink).2.ReactsIn allowed := by
  intro a reaction ha
  rw [appender_newAppender] at ha
  split at ha
  · rw [hsink] at ha
    cases ha
  · exact h a reaction ha

/-- A change of an appender that keeps its sink leaves the ways of reacting as they are. -/
theorem ReactsIn.modifyAppender {allowed : Reaction → Prop} {s : Facility} (h : s.ReactsIn allowed)
    (a : AppenderId) {change : Appender → Appender}
    (hchange : ∀ entry, (change entry).sink = entry.sink) :
    (s.modifyAppender a change).ReactsIn allowed := by
  refine h.of_reaction fun b => ?_
  rw [appender_modifyAppender_of_keeps Appender.sink hchange]

/-! ## One visit -/

/-- What an observer does to a logger after it was called by it. -/
def afterCall (reaction : Option Reaction) (l : LoggerId) (s : Facility) : Facility :=
  match reaction with
  | some .clear => s.clearAppenders l
  | some .raise => s.setLevel l .fatal
  | _ => s

/-- What a call of an appender leaves, if the appender does not call loggers. -/
def visit (a : AppenderId) (l : LoggerId) (level : Level) (event : Event) (s : Facility) : Facility :=
  ((s.countCall a).deposit a l level event).afterCall (s.appender a).sink.reaction? l

variable (a : AppenderId) (l : LoggerId) (level : Level) (event : Event) (s : Facility)

theorem countCall_of_reaction (h : (s.appender a).sink.reaction? = none) : s.countCall a = s := by
  rw [countCall]
  split
  · next ho =>
    rw [ho] at h
    cases h
  · rfl

/-- An appender that does not echo runs its script in one visit, whatever a call of a logger would
do. -/
theorem run_appenderScript (nested : Nested) (h : (s.appender a).sink.reaction? ≠ some .echo) :
    (appenderScript a l level event s).run nested s = some (s.visit a l level event) := by
  rw [appenderScript, visit]
  cases hsink : (s.appender a).sink with
  | observer o =>
    rw [hsink] at h
    rw [Sink.script, Sink.reaction?]
    cases hr : o.reaction with
    | echo => exact absurd (congrArg some hr) h
    | keep => rfl
    | upperCase => rfl
    | clear => rfl
    | raise => rfl
  | _ =>
    rw [countCall_of_reaction a s (by rw [hsink]; rfl)]
    rfl

theorem showsLike_afterCall (reaction : Option Reaction) :
    ShowsLike s (s.afterCall reaction l) := by
  unfold afterCall
  split
  · exact showsLike_modifyLogger s l (fun _ => rfl) fun _ => rfl
  · exact showsLike_modifyLogger s l (fun _ => rfl) fun _ => rfl
  · exact (SameSetup.refl s).showsLike

@[simp] theorem appender_afterCall (reaction : Option Reaction) (b : AppenderId) :
    (s.afterCall reaction l).appender b = s.appender b := by
  unfold afterCall
  split <;> rfl

theorem showsLike_visit : ShowsLike s (s.visit a l level event) :=
  ((writes_countCall a s).toSameSetup.showsLike.trans
    (writes_deposit a _ l level event).toSameSetup.showsLike).trans (showsLike_afterCall l _ _)

theorem reaction_visit (b : AppenderId) :
    ((s.visit a l level event).appender b).sink.reaction? =
      (s.appender b).sink.reaction? := by
  rw [visit, appender_afterCall, (writes_deposit a _ l level event).reaction b,
    (writes_countCall a s).reaction b]

/-- A visit of one appender leaves the sinks of the others alone. -/
theorem sink_visit_of_ne {b : AppenderId} (h : b ≠ a) :
    ((s.visit a l level event).appender b).sink = (s.appender b).sink := by
  rw [visit, appender_afterCall, (writes_deposit a _ l level event).others b h,
    (writes_countCall a s).others b h]

/-- Where all appenders only keep what they are given, a visit keeps the setup. -/
theorem Passive.sameSetup_visit (h : s.Passive) : SameSetup s (s.visit a l level event) := by
  have hafter : ∀ t : Facility, t.afterCall (s.appender a).sink.reaction? l = t := by
    intro t
    cases hr : (s.appender a).sink.reaction? with
    | none => rfl
    | some reaction =>
      rcases h a reaction hr with rfl | rfl
      · rfl
      · rfl
  rw [visit, hafter]
  exact (writes_countCall a s).toSameSetup.trans (writes_deposit a _ l level event).toSameSetup

/-! ## All visits of a call -/

/-- What visits of appenders in order leave. -/
def visitAll (appenders : List AppenderId) (s : Facility) : Facility :=
  appenders.foldl (fun s a => s.visit a l level event) s

@[simp] theorem visitAll_nil : s.visitAll l level event [] = s := rfl

@[simp] theorem visitAll_cons (rest : List AppenderId) :
    s.visitAll l level event (a :: rest) = (s.visit a l level event).visitAll l level event rest :=
  rfl

theorem fanOut_of_quiet (nested : Nested) (appenders : List AppenderId) (h : s.Quiet) :
    fanOut appenderScript nested l level event appenders s =
      some (s.visitAll l level event appenders) := by
  induction appenders generalizing s with
  | nil => rfl
  | cons a rest ih =>
    have hecho : (s.appender a).sink.reaction? ≠ some .echo := fun he => h a _ he rfl
    rw [fanOut, run_appenderScript a l level event s nested hecho]
    exact ih _ (h.of_reaction (reaction_visit a l level event s))

/-- Without nested calls, a call of a logger at or above its gate visits the appenders of its list in
order, each as often as it is listed. -/
theorem log_of_quiet (h : s.Quiet) :
    s.log l level event =
      if level < (s.logger l).level then s
      else s.visitAll l level event (s.logger l).appenders := by
  rw [log]
  -- Nothing nests, so whatever depth is allowed, it is not used up.
  apply Option.get_of_eq_some
  rw [logWithin]
  split
  · rfl
  · exact fanOut_of_quiet l level event s _ _ h

theorem reaction_visitAll (appenders : List AppenderId) (b : AppenderId) :
    ((s.visitAll l level event appenders).appender b).sink.reaction? =
      (s.appender b).sink.reaction? := by
  induction appenders generalizing s with
  | nil => rfl
  | cons a rest ih => rw [visitAll_cons, ih, reaction_visit]

theorem showsLike_visitAll (appenders : List AppenderId) :
    ShowsLike s (s.visitAll l level event appenders) := by
  induction appenders generalizing s with
  | nil => exact (SameSetup.refl s).showsLike
  | cons a rest ih => exact (showsLike_visit a l level event s).trans (ih _)

theorem Passive.sameSetup_visitAll (appenders : List AppenderId) (h : s.Passive) :
    SameSetup s (s.visitAll l level event appenders) := by
  induction appenders generalizing s with
  | nil => exact .refl s
  | cons a rest ih =>
    have hkept := h.of_reaction (reaction_visit a l level event s)
    exact (Passive.sameSetup_visit a l level event s h).trans (ih _ hkept)

theorem reaction_log (h : s.Quiet) (b : AppenderId) :
    ((s.log l level event).appender b).sink.reaction? = (s.appender b).sink.reaction? := by
  rw [log_of_quiet l level event s h]
  split
  · rfl
  · exact reaction_visitAll l level event s _ b

theorem showsLike_log (h : s.Quiet) : ShowsLike s (s.log l level event) := by
  rw [log_of_quiet l level event s h]
  split
  · exact (SameSetup.refl s).showsLike
  · exact showsLike_visitAll l level event s _

theorem Passive.sameSetup_log (h : s.Passive) : SameSetup s (s.log l level event) := by
  rw [log_of_quiet l level event s h.quiet]
  split
  · exact .refl s
  · exact Passive.sameSetup_visitAll l level event s _ h

end Facility

end EventLog
