import EventLog.Proofs.Application.Layouts

/-!
# Where the layouts of appenders come from

An appender has the layout that it was given last. One that was never given any has the layout that the
first logger it was attached to had at that moment, and keeps it whatever becomes of that logger
(`LayoutMove.settled`).

Every call comes to some moves, each of which gives an appender a layout or attaches it to a logger with
one; many calls come to none. `Settles` says that these are all there is to the layouts of appenders.
Each function has its moves in the state that it meets, and the moves of a run are those of its calls.
-/

namespace EventLog

open Config

/-- Something that may change the layout of an appender. -/
inductive LayoutMove where
  | given (a : AppenderId) (layout : SharedLayout)
  /-- Attached to a logger that has the layout. -/
  | attached (a : AppenderId) (layout : SharedLayout)

namespace LayoutMove

variable (a : AppenderId)

/-- The layout that a move gives to an appender. -/
def givenTo : LayoutMove → Option SharedLayout
  | given b layout => if b = a then some layout else none
  | attached _ _ => none

/-- The layout of the logger that a move attaches an appender to. -/
def attachedTo : LayoutMove → Option SharedLayout
  | given _ _ => none
  | attached b layout => if b = a then some layout else none

/-- The layout of an appender after moves: the one that it was given last, or else that of the logger it
was attached to first. -/
def settled (moves : List LayoutMove) : Option SharedLayout :=
  (moves.reverse.findSome? (givenTo a)).or (moves.findSome? (attachedTo a))

/-- What a move makes of the layout that an appender has. -/
def act (layout : Option SharedLayout) : LayoutMove → Option SharedLayout
  | given b new => if b = a then some new else layout
  | attached b new => if b = a then layout.or (some new) else layout

/-- Moves leave the layout that was given last, else the one that was there, else that of the first
logger. -/
theorem foldl_act (moves : List LayoutMove) (layout : Option SharedLayout) :
    moves.foldl (act a) layout =
      ((moves.reverse.findSome? (givenTo a)).or layout).or (moves.findSome? (attachedTo a)) := by
  induction moves generalizing layout with
  | nil => simp
  | cons move rest ih =>
    -- The first move starts what the others end with: it counts where none of them gives a layout.
    rw [List.foldl_cons, ih, List.reverse_cons, List.findSome?_append]
    cases move with
    | given b new =>
      by_cases hb : b = a
      · simp [act, givenTo, attachedTo, hb, List.findSome?_cons]
      · simp [act, givenTo, attachedTo, hb, List.findSome?_cons]
    | attached b new =>
      by_cases hb : b = a
      · simp [act, givenTo, attachedTo, hb, List.findSome?_cons]
      · simp [act, givenTo, attachedTo, hb, List.findSome?_cons]

/-- An appender that has a layout keeps it through moves that give it none. -/
theorem foldl_act_of_not_given {moves : List LayoutMove}
    (hmoves : ∀ move ∈ moves, move.givenTo a = none) (layout : SharedLayout) :
    moves.foldl (act a) (some layout) = some layout := by
  have hnone : moves.reverse.findSome? (givenTo a) = none := by
    rw [List.findSome?_eq_none_iff]
    exact fun move hmove => hmoves move (List.mem_reverse.1 hmove)
  rw [foldl_act, hnone, Option.none_or, Option.some_or]

end LayoutMove

/-! ## The moves of each function -/

open LayoutMove

/-- Appenders are attached to a logger, which has one layout all along. -/
def Facility.attachMoves (l : LoggerId) (appenders : List AppenderId) (s : Facility) :
    List LayoutMove :=
  appenders.map (.attached · (s.logger l).layout)

/-- The moves of an operation. -/
def Operation.moves (s : Facility) : Operation → List LayoutMove
  | addAppender l a => s.attachMoves l [a]
  | setAppenderLayout a layout => [.given a layout]
  | setAppenderPattern a pattern => [.given a (s.compile pattern).1]
  | _ => []

namespace Facility

/-- Each appender that is configured is given its pattern, if it has one, and then attached. -/
def attachConfiguredMoves (l : LoggerId) : List AppenderConfig → Facility → List LayoutMove
  | [], _ => []
  | config :: rest, s =>
    match s.buildAppender config with
    | (.ok a, t) =>
      (config.pattern.toList.map fun p => .given a (s.compile p).1) ++ t.attachMoves l [a] ++
        attachConfiguredMoves l rest (t.addAppender l a)
    | (.error _, _) => []

/-- A logger that is configured gets its layout before its appenders are made. -/
def buildLoggerMoves (config : LoggerConfig) (s : Facility) : List LayoutMove :=
  match (s.startLogger config).configureLogger ⟨s.loggers.size⟩ config with
  | (.ok (), t) => t.attachConfiguredMoves ⟨s.loggers.size⟩ config.appenders
  | (.error _, _) => []

/-- Loggers are built in order, up to the first that is refused. -/
def buildLoggersMoves : List LoggerConfig → Facility → List LayoutMove
  | [], _ => []
  | config :: rest, s =>
    s.buildLoggerMoves config ++
      match s.buildLogger config with
      | (.ok _, t) => buildLoggersMoves rest t
      | (.error _, _) => []

end Facility

/-- The appenders of a new logger that is named as the root are attached to the root as well. -/
def Registry.enrollMoves (r : Registry) : List LoggerId → Facility → List LayoutMove
  | [], _ => []
  | l :: rest, s =>
    (if (s.logger l).name = rootName then
      (r.enroll l s).1.attachMoves r.root (s.logger l).appenders
    else []) ++ (r.enroll l s).2.enrollMoves rest (r.enroll l s).1

namespace Application

/-- The moves of a call. -/
def moves (p : Application) : Call → List LayoutMove
  | .operate operation => operation.moves p.facility
  | .build builder =>
    (p.perform (.build builder)).facility.attachMoves ⟨p.facility.loggers.size⟩ builder.appenders
  | .configure config => p.facility.buildLoggerMoves config
  | .apply configs =>
    p.facility.buildLoggersMoves configs ++
      match p.facility.buildLoggers configs with
      | (.ok built, t) => p.registry.enrollMoves built t
      | (.error _, _) => []
  | _ => []

/-- The moves of a run. -/
def movesOf (p : Application) (calls : List Call) : List LayoutMove :=
  (p.history calls).flatMap fun entry => entry.1.moves entry.2

end Application

/-! ## Moves are all there is to layouts -/

namespace Facility

/-- The layouts of the second facility come from those of the first by some moves. -/
def Settles (moves : List LayoutMove) (s t : Facility) : Prop :=
  ∀ a, (t.appender a).layout = moves.foldl (act a) (s.appender a).layout

namespace Settles

variable {moves more : List LayoutMove} {s t u : Facility}

theorem refl (s : Facility) : Settles [] s s := fun _ => rfl

theorem trans (h : Settles moves s t) (h' : Settles more t u) : Settles (moves ++ more) s u := by
  intro a
  rw [h', h, List.foldl_append]

theorem of_sameSetup (h : SameSetup s t) : Settles [] s t :=
  fun a => congrArg AppenderState.layout (h.state a)

theorem push {sink : Sink} (happenders : t.appenders = s.appenders.push { sink }) :
    Settles [] s t :=
  layout_of_push happenders

theorem setAppenderLayout {a : AppenderId} (ha : a.index < s.appenders.size)
    (layout : SharedLayout) : Settles [.given a layout] s (s.setAppenderLayout a layout) := by
  intro b
  rw [Facility.setAppenderLayout, appender_modifyAppender, List.foldl_cons, List.foldl_nil, act]
  by_cases hb : b = a
  · rw [if_pos ⟨hb, ha⟩, if_pos hb.symm]
  · rw [if_neg fun h => hb h.1, if_neg (Ne.symm hb)]

theorem addAppender (l : LoggerId) {a : AppenderId} (ha : a.index < s.appenders.size) :
    Settles (s.attachMoves l [a]) s (s.addAppender l a) := by
  intro b
  rw [Facility.addAppender, appender_modifyLogger, inherit, attachMoves, List.map_singleton,
    List.foldl_cons, List.foldl_nil, act]
  by_cases hb : b = a
  · subst hb
    rw [if_pos rfl]
    cases hlayout : (s.appender b).layout with
    | none => simp [appender_modifyAppender_self ha]
    | some layout => simp [hlayout]
  · rw [if_neg (Ne.symm hb)]
    split
    · rw [appender_modifyAppender_of_ne hb]
    · rfl

end Settles

theorem layout_addAppender (s : Facility) (l : LoggerId) (a : AppenderId) (k : LoggerId) :
    ((s.addAppender l a).logger k).layout = (s.logger k).layout := by
  have hinherit : (s.inherit l a).logger k = s.logger k := by
    rw [inherit]
    split <;> rfl
  rw [addAppender, ← hinherit]
  refine logger_modifyLogger_of_keeps Logger.layout ?_ (s.inherit l a) l k
  intro _
  rfl

theorem layout_addAppenders (s : Facility) (l : LoggerId) (appenders : List AppenderId)
    (k : LoggerId) : ((s.addAppenders l appenders).logger k).layout = (s.logger k).layout := by
  induction appenders generalizing s with
  | nil => rfl
  | cons a rest ih => exact (ih (s.addAppender l a)).trans (layout_addAppender s l a k)

/-- Attaching is the same move in facilities where the logger has the same layout. -/
theorem attachMoves_congr {s t : Facility} {l : LoggerId}
    (h : (t.logger l).layout = (s.logger l).layout) (appenders : List AppenderId) :
    t.attachMoves l appenders = s.attachMoves l appenders := by
  rw [attachMoves, attachMoves, h]

theorem Settles.addAppenders {s : Facility} (l : LoggerId) {appenders : List AppenderId}
    (hthere : ∀ a ∈ appenders, a.index < s.appenders.size) :
    Settles (s.attachMoves l appenders) s (s.addAppenders l appenders) := by
  induction appenders generalizing s with
  | nil => exact .refl s
  | cons a rest ih =>
    rw [List.forall_mem_cons] at hthere
    have hrest := ih (s := s.addAppender l a) fun b hb => by
      rw [size_addAppender]
      exact hthere.2 b hb
    rw [attachMoves_congr (layout_addAppender s l a l)] at hrest
    exact (Settles.addAppender l hthere.1).trans hrest

/-! ### Building -/

/-- The pattern of an appender is given to it, unless it is refused. -/
theorem settles_configurePattern {s : Facility} {a : AppenderId} (ha : a.index < s.appenders.size)
    (pattern : Option String) :
    (s.configurePattern a pattern).1 = .ok () ∧
        Settles (pattern.toList.map fun p => .given a (s.compile p).1) s
          (s.configurePattern a pattern).2 ∨
      (∃ error, (s.configurePattern a pattern).1 = .error error) ∧
        Settles [] s (s.configurePattern a pattern).2 := by
  cases pattern with
  | none => exact .inl ⟨rfl, .refl s⟩
  | some p =>
    cases hfaulty : (Layout.compile p).hasError with
    | true =>
      simp only [configurePattern, compileStrict_eq, hfaulty, if_true]
      exact .inr ⟨⟨_, rfl⟩, .refl s⟩
    | false =>
      simp only [configurePattern, compileStrict_eq, hfaulty, Bool.false_eq_true, if_false]
      exact .inl ⟨trivial, Settles.setAppenderLayout (s := (s.compile p).2) ha _⟩

/-- An appender that is built has been given its pattern. One that is not has been given none. -/
theorem settles_buildAppender (config : AppenderConfig) (s : Facility) :
    (∃ a : AppenderId, (s.buildAppender config).1 = .ok a ∧
        Settles (config.pattern.toList.map fun p => .given a (s.compile p).1) s
          (s.buildAppender config).2) ∨
      (∃ error, (s.buildAppender config).1 = .error error) ∧
        Settles [] s (s.buildAppender config).2 := by
  rw [buildAppender]
  rcases makeTarget_cases config.target s with
    ⟨t, sink, heq, -, hgrows, hstamp, -⟩ | ⟨t, path, fault, heq, -, hgrows⟩
  · rw [heq]
    dsimp only
    have hmade : Settles [] s (t.setAppenderLevel ⟨s.appenders.size⟩ config.level) :=
      (Settles.push hgrows.appenders).trans (layout_setAppenderLevel _ _ t)
    have hthere : s.appenders.size <
        (t.setAppenderLevel ⟨s.appenders.size⟩ config.level).appenders.size := by
      rw [setAppenderLevel, size_modifyAppender, hgrows.appenders, Store.size_push]
      exact Nat.lt_succ_self _
    have hcompile : ∀ p, ((t.setAppenderLevel ⟨s.appenders.size⟩ config.level).compile p).1 =
        (s.compile p).1 := by
      intro p
      rw [compile, compile]
      show SharedLayout.mk t.nextStamp _ = SharedLayout.mk s.nextStamp _
      rw [hstamp]
    have hcase := settles_configurePattern (a := ⟨s.appenders.size⟩) hthere config.pattern
    simp only [hcompile] at hcase
    generalize (t.setAppenderLevel ⟨s.appenders.size⟩ config.level).configurePattern
      ⟨s.appenders.size⟩ config.pattern = result at hcase ⊢
    obtain ⟨outcome, u⟩ := result
    rcases hcase with ⟨rfl, hgiven⟩ | ⟨⟨error, rfl⟩, hnone⟩
    · exact .inl ⟨_, rfl, hmade.trans hgiven⟩
    · exact .inr ⟨⟨error, rfl⟩, hmade.trans hnone⟩
  · rw [heq]
    exact .inr ⟨⟨_, rfl⟩, .push hgrows.appenders⟩

theorem settles_attachConfigured (l : LoggerId) (configs : List AppenderConfig) (s : Facility) :
    Settles (s.attachConfiguredMoves l configs) s (s.attachConfigured l configs).2 := by
  induction configs generalizing s with
  | nil => exact .refl s
  | cons config rest ih =>
    have hthere : ∀ a, (s.buildAppender config).1 = .ok a →
        a.index < (s.buildAppender config).2.appenders.size := fun _ => lt_of_buildAppender
    have hcase := settles_buildAppender config s
    rw [attachConfigured, attachConfiguredMoves]
    generalize s.buildAppender config = result at hthere hcase ⊢
    obtain ⟨outcome, t⟩ := result
    rcases hcase with ⟨a, rfl, hgiven⟩ | ⟨⟨error, rfl⟩, hnone⟩
    · exact (hgiven.trans (.addAppender l (hthere a rfl))).trans (ih (t.addAppender l a))
    · exact hnone

theorem settles_buildLogger (config : LoggerConfig) (s : Facility) :
    Settles (s.buildLoggerMoves config) s (s.buildLogger config).2 := by
  obtain ⟨made, hprepares, -⟩ := configureLogger_cases config s
  rw [buildLogger_eq, buildLoggerMoves]
  generalize (s.startLogger config).configureLogger ⟨s.loggers.size⟩ config = result
    at hprepares ⊢
  obtain ⟨outcome, t⟩ := result
  have hstart : Settles [] s t := by
    intro a
    rw [appender, hprepares.appenders]
    rfl
  cases outcome with
  | error error => exact hstart
  | ok =>
    have hattached := settles_attachConfigured ⟨s.loggers.size⟩ config.appenders t
    dsimp only
    generalize t.attachConfigured ⟨s.loggers.size⟩ config.appenders = result at hattached ⊢
    obtain ⟨_ | _, u⟩ := result <;> exact hstart.trans hattached

theorem settles_buildLoggers (configs : List LoggerConfig) (s : Facility) :
    Settles (s.buildLoggersMoves configs) s (s.buildLoggers configs).2 := by
  induction configs generalizing s with
  | nil => exact .refl s
  | cons config rest ih =>
    have hbuilt := settles_buildLogger config s
    rw [buildLoggers, buildLoggersMoves]
    generalize s.buildLogger config = result at hbuilt ⊢
    obtain ⟨outcome, t⟩ := result
    cases outcome with
    | error error =>
      rw [List.append_nil]
      exact hbuilt
    | ok l =>
      have hrest := ih t
      dsimp only
      generalize t.buildLoggers rest = result at hrest ⊢
      obtain ⟨_ | _, u⟩ := result <;> exact hbuilt.trans hrest

theorem settles_build (builder : LoggerBuilder) {s : Facility}
    (hthere : ∀ a ∈ builder.appenders, a.index < s.appenders.size) :
    Settles ((s.build builder).2.attachMoves ⟨s.loggers.size⟩ builder.appenders) s
      (s.build builder).2 := by
  rw [build]
  dsimp only
  rw [attachMoves_congr (layout_addAppenders _ _ _ _)]
  cases builder.pattern with
  | none => exact Settles.addAppenders _ hthere
  | some p => exact Settles.addAppenders _ hthere

/-! ### Operations -/

/-- Operations among appenders that only keep what they are given. -/
theorem settles_perform {s : Facility} (hs : s.Passive) {operation : Operation}
    (hthere : ∀ a ∈ operation.appenders, a.index < s.appenders.size) :
    Settles (operation.moves s) s (s.perform operation) := by
  have hnewFile : ∀ path, Settles []
      s ((s.newAppender (.file { path })).2.reopen (s.newAppender (.file { path })).1).2 := by
    intro path
    have hnew : Settles [] s (s.newAppender (.file { path })).2 := .push rfl
    exact hnew.trans (.of_sameSetup (writes_reopen _ _).toSameSetup)
  cases operation with
  | addAppender l a => exact .addAppender l (hthere a List.mem_cons_self)
  | setAppenderLayout a layout => exact .setAppenderLayout (hthere a List.mem_cons_self) layout
  | setAppenderPattern a pattern =>
    have hcompiled : a.index < (s.compile pattern).2.appenders.size :=
      hthere a List.mem_cons_self
    exact .setAppenderLayout hcompiled (s.compile pattern).1
  | setPattern l pattern =>
    rw [perform, setPattern_snd]
    split <;> exact .refl s
  | flush l => exact .of_sameSetup (sameSetup_flushAll s _)
  | log l level event => exact .of_sameSetup (Passive.sameSetup_log l level event s hs)
  | newMemory => exact .push rfl
  | newConsole painted => exact .push rfl
  | newFile path =>
    obtain ⟨diagnostic, heq⟩ := exists_newFileAppender_snd path s
    rw [perform, heq]
    exact hnewFile path
  | openFile path =>
    rw [perform, openFileAppender_snd]
    exact hnewFile path
  | setAppenderLevel a level => exact layout_setAppenderLevel a level s
  | take a => exact .of_sameSetup (writes_take a s).toSameSetup
  | flushAppender a => exact .of_sameSetup (writes_flushAppender a s).toSameSetup
  | reopen a => exact .of_sameSetup (writes_reopen a s).toSameSetup
  | resetMetrics a => exact .of_sameSetup (writes_resetMetrics a s).toSameSetup
  | _ => exact .refl s

end Facility

namespace Registry

open Facility

variable {P : Layout → Prop} {s : Facility}

/-! ### Taking in what was built -/

theorem settles_adopt (h : HoldsLayouts P s) (target source : LoggerId) :
    Settles ((adopt target source s).attachMoves target (s.logger source).appenders) s
      (adopt target source s) := by
  rw [adopt, attachMoves_congr (layout_addAppenders _ _ _ _)]
  exact Settles.addAppenders target fun a ha => lt_of_isSome_layout (h.attached source a ha)

theorem settles_enrollAll (h : HoldsLayouts P s) (built : List LoggerId) (r : Registry) :
    Settles (r.enrollMoves built s) s (r.enrollAll built s).1 := by
  induction built generalizing s r with
  | nil => exact .refl s
  | cons l rest ih =>
    rw [enrollAll_cons, enrollMoves]
    by_cases hname : (s.logger l).name = rootName
    · rw [if_pos hname, enroll_of_root hname]
      exact (settles_adopt h r.root l).trans (ih (holdsLayouts_adopt h r.root l) r)
    · rw [if_neg hname, enroll_of_ne hname]
      exact ih h _

end Registry

/-! ## Runs -/

namespace Application

open Facility

variable {P : Layout → Prop} {p : Application}

theorem settles_perform
    (hP : Layout.Admits P)
    (h : HoldsLayouts P p.facility) (hs : p.facility.Passive) {call : Call}
    (hthere : ∀ a ∈ call.appenders, a.index < p.facility.appenders.size) :
    Settles (p.moves call) p.facility (p.perform call).facility := by
  cases call with
  | operate operation => exact Facility.settles_perform hs hthere
  | build builder => exact settles_build builder hthere
  | configure config => exact settles_buildLogger config p.facility
  | apply configs =>
    have hbuilt := settles_buildLoggers configs p.facility
    have hholds := h.buildLoggers hP configs
    rw [moves, perform, Registry.apply]
    generalize p.facility.buildLoggers configs = result at hbuilt hholds ⊢
    obtain ⟨_ | built, t⟩ := result
    · rw [List.append_nil]
      exact hbuilt
    · exact hbuilt.trans (Registry.settles_enrollAll hholds built p.registry)
  | _ => exact .refl p.facility

theorem settles_run
    (hP : Layout.Admits P)
    (h : HoldsLayouts P p.facility) (hs : p.facility.Passive) (calls : List Call)
    (hcalls : ∀ entry ∈ p.history calls, entry.2.Brings P ∧
      ∀ a ∈ entry.2.appenders, a.index < entry.1.facility.appenders.size) :
    Settles (p.movesOf calls) p.facility (p.run calls).facility := by
  induction calls generalizing p with
  | nil => exact .refl p.facility
  | cons call rest ih =>
    rw [history, List.forall_mem_cons] at hcalls
    obtain ⟨⟨hbrings, hthere⟩, hrest⟩ := hcalls
    have hfirst := settles_perform hP h hs hthere
    have hheld := holdsLayouts_perform hP h hs hthere hbrings
    rw [movesOf, history, List.flatMap_cons]
    exact hfirst.trans (ih hheld (passive_perform hs call) hrest)

/-! ## Layouts that stay -/

theorem givenTo_of_mem_attachMoves {s : Facility} {l : LoggerId} {appenders : List AppenderId}
    (a : AppenderId) : ∀ move ∈ s.attachMoves l appenders, move.givenTo a = none := by
  intro move hmove
  obtain ⟨b, -, rfl⟩ := List.mem_map.1 hmove
  rfl

theorem givenTo_of_mem_enrollMoves {r : Registry} {built : List LoggerId} {s : Facility}
    (a : AppenderId) : ∀ move ∈ r.enrollMoves built s, move.givenTo a = none := by
  induction built generalizing r s with
  | nil => exact List.forall_mem_nil _
  | cons l rest ih =>
    rw [Registry.enrollMoves, List.forall_mem_append]
    refine ⟨?_, ih⟩
    split
    · exact givenTo_of_mem_attachMoves a
    · exact List.forall_mem_nil _

/-- Whatever else a program does, an appender keeps the layout that it has. -/
theorem layout_perform_of_some
    (hP : Layout.Admits P)
    (h : HoldsLayouts P p.facility) (hs : p.facility.Passive) {call : Call}
    (hthere : ∀ a ∈ call.appenders, a.index < p.facility.appenders.size) {a : AppenderId}
    {shared : SharedLayout} (hlayout : (p.facility.appender a).layout = some shared)
    (hset : ∀ layout, call ≠ .operate (.setAppenderLayout a layout))
    (hpattern : ∀ pattern, call ≠ .operate (.setAppenderPattern a pattern)) :
    ((p.perform call).facility.appender a).layout = some shared := by
  have ha : a.index < p.facility.appenders.size :=
    lt_of_isSome_layout (by rw [hlayout, Option.isSome_some])
  have hkept : (∀ move ∈ p.moves call, move.givenTo a = none) →
      ((p.perform call).facility.appender a).layout = some shared := by
    intro hmoves
    rw [settles_perform hP h hs hthere a, hlayout]
    exact foldl_act_of_not_given a hmoves shared
  cases call with
  | operate operation =>
    apply hkept
    cases operation with
    | addAppender l b => exact givenTo_of_mem_attachMoves a
    | setAppenderLayout b layout =>
      have hne : b ≠ a := by
        rintro rfl
        exact hset layout rfl
      exact List.forall_mem_singleton.2 (if_neg hne)
    | setAppenderPattern b pattern =>
      have hne : b ≠ a := by
        rintro rfl
        exact hpattern pattern rfl
      exact List.forall_mem_singleton.2 (if_neg hne)
    | _ => exact List.forall_mem_nil _
  | build builder => exact hkept (givenTo_of_mem_attachMoves a)
  | configure config =>
    -- Building gives layouts to new appenders only.
    rw [perform, onFacility, (builtSince_buildLogger config p.facility).1.appender a ha, hlayout]
  | apply configs =>
    have hextends := (buildLoggers_cases configs p.facility).1
    have hholds := h.buildLoggers hP configs
    rw [perform, Registry.apply]
    generalize p.facility.buildLoggers configs = result at hextends hholds ⊢
    obtain ⟨_ | built, t⟩ := result
    · rw [hextends.appender a ha, hlayout]
    · rw [Registry.settles_enrollAll hholds built p.registry a, hextends.appender a ha, hlayout]
      exact foldl_act_of_not_given a (givenTo_of_mem_enrollMoves a) shared
  | _ => exact hlayout

theorem brings_true (call : Call) : call.Brings fun _ => True := by
  cases call with
  | operate operation => cases operation <;> trivial
  | build builder => exact fun _ _ => trivial
  | _ => trivial

/-- Over every run an appender in the list of a logger has a layout, so that the logger's plays no part
in what it shows. This is the layout that it was given last, or else that of the logger it was attached
to first at that moment. From then on no call but one that sets the layout of the appender itself
changes it. -/
theorem layouts_inherited (east : Int) (calls : List Call)
    (hcalls : ∀ entry ∈ (initial east).history calls, ∀ a ∈ entry.2.appenders,
      a.index < entry.1.facility.appenders.size) :
    let p := (initial east).run calls
    let s := p.facility
    (∀ l, ∀ a ∈ (s.logger l).appenders, (∃ shared, (s.appender a).layout = some shared) ∧
      ∀ level event other, (s.appender a).render s.east { s.logger l with layout := other } level event
        = (s.appender a).render s.east (s.logger l) level event) ∧
    (∀ a, (s.appender a).layout = settled a ((initial east).movesOf calls)) ∧
    ∀ call, (∀ a ∈ call.appenders, a.index < s.appenders.size) →
      ∀ a shared, (s.appender a).layout = some shared →
        (∀ layout, call ≠ .operate (.setAppenderLayout a layout)) →
        (∀ pattern, call ≠ .operate (.setAppenderPattern a pattern)) →
        ((p.perform call).facility.appender a).layout = some shared := by
  intro p s
  have hP : Layout.Admits fun _ => True := fun _ _ => trivial
  have hstart := holdsLayouts_initial hP east
  have hall : ∀ entry ∈ (initial east).history calls, entry.2.Brings (fun _ => True) ∧
      ∀ a ∈ entry.2.appenders, a.index < entry.1.facility.appenders.size :=
    fun entry hentry => ⟨brings_true entry.2, hcalls entry hentry⟩
  have hholds : s.HoldsLayouts fun _ => True :=
    holdsLayouts_run hP hstart (passive_initial east) calls hall
  have hpassive : s.Passive := passive_run (passive_initial east) calls
  refine ⟨fun l a ha => ?_, fun a => ?_, fun call hthere a shared hlayout hset hpattern => ?_⟩
  · obtain ⟨shared, hshared⟩ := Option.isSome_iff_exists.1 (hholds.attached l a ha)
    refine ⟨⟨shared, hshared⟩, fun level event other => ?_⟩
    rw [AppenderState.render, AppenderState.render, hshared]
    rfl
  · -- There are no appenders at the start, so the moves have the only say.
    have hnone : ((initial east).facility.appender a).layout = none := rfl
    rw [settles_run hP hstart (passive_initial east) calls hall a, foldl_act, settled]
    rw [hnone, Option.or_none]
  · exact layout_perform_of_some hP hholds hpassive hthere hlayout hset hpattern

/-- An appender keeps the layout of the first logger, which has another pattern later, and where it is
attached again; one that was given a pattern before it was attached keeps that. -/
theorem layouts_inherited_of_shared :
    let calls : List Call :=
      [.operate (.newLogger "net"), .operate (.setPattern ⟨1⟩ "%m%n"), .operate .newMemory,
        .operate (.newConsole false), .operate (.addAppender ⟨1⟩ ⟨0⟩),
        .operate (.setAppenderPattern ⟨1⟩ "%p"), .operate (.setPattern ⟨1⟩ "%c %m%n"),
        .operate (.delAppender ⟨1⟩ ⟨0⟩), .build { name := "db", appenders := [⟨0⟩, ⟨1⟩] },
        .apply [{ name := "root", pattern := some "%l", appenders := [⟨.console, .warn, none⟩] }]]
    let p := (initial 0).run calls
    let s := p.facility
    (s.appender ⟨0⟩).layout = some ⟨2, .compile "%m%n"⟩ ∧
      (s.appender ⟨1⟩).layout = some ⟨3, .compile "%p"⟩ ∧
      (s.appender ⟨2⟩).layout = some (s.logger ⟨0⟩).layout ∧
      ((p.perform (.operate (.addAppender ⟨0⟩ ⟨0⟩))).facility.appender ⟨0⟩).layout =
        some ⟨2, .compile "%m%n"⟩ := by
  intro calls p s
  have hcalls : ∀ entry ∈ (initial 0).history calls, ∀ a ∈ entry.2.appenders,
      a.index < entry.1.facility.appenders.size := by
    decide +kernel
  obtain ⟨-, hlayouts, hkept⟩ := layouts_inherited 0 calls hcalls
  have hfirst : (s.appender ⟨0⟩).layout = some ⟨2, .compile "%m%n"⟩ :=
    (hlayouts ⟨0⟩).trans (by decide +kernel)
  refine ⟨hfirst, (hlayouts ⟨1⟩).trans ?_, (hlayouts ⟨2⟩).trans ?_, ?_⟩
  · decide +kernel
  · decide +kernel
  · exact hkept _ (by decide +kernel) ⟨0⟩ _ hfirst (fun _ => nofun) fun _ => nofun

/-- A program whose root logger writes to the console is two calls away from the start. -/
example (east : Int) : withConsole east =
    (initial east).run [.operate (.newConsole false), .operate (.addAppender ⟨0⟩ ⟨0⟩)] := rfl

end Application

end EventLog
