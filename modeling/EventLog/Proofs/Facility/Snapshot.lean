import EventLog.Facility.Trace
import EventLog.Proofs.Facility.FanOut

/-!
# A call of a logger works on the list as it was

A logger fans an event out to the appenders of its list as the list is when the call starts. What
these do meanwhile, to the list and to the gate too, shows only in calls that start later
(`Snapshots`). This holds for appenders of any kind and however deep their calls nest: telling the
trace of a call changes nothing (`logWithin_eq_map_traced`), and by induction on scripts, on lists
and on the depth each call of a trace has visited its addressees at its start (`tells_logTraced`).

Where some appenders log one marked copy of each unmarked event and none reconfigures anything
(`Echoes`), a call with an unmarked event ends, after as many nested calls as there are such
appenders, and each of the calls goes through the whole list (`fans_of_unmarked`).
-/

namespace EventLog

namespace Facility

@[simp] theorem elapse_nil (s : Facility) : s.elapse [] = s := rfl

@[simp] theorem elapse_cons (s : Facility) (moment : Moment) (rest : List Moment) :
    s.elapse (moment :: rest) = (moment.effect s).elapse rest := rfl

theorem elapse_append (s : Facility) (before after : List Moment) :
    s.elapse (before ++ after) = (s.elapse before).elapse after :=
  List.foldl_append

/-! ## Telling the trace changes nothing -/

section

variable {nested : Nested} {traced : NestedTraced}

theorem perform_eq_map_traced
    (h : ∀ l level event s, nested l level event s = (traced l level event s).map (·.2))
    (action : Action) (s : Facility) :
    action.perform nested s = (action.traced traced s).map (·.2) := by
  cases action with
  | log l level event =>
    rw [Action.perform, h, Action.traced]
    cases traced l level event s <;> rfl
  | _ => rfl

theorem run_eq_map_traced
    (h : ∀ l level event s, nested l level event s = (traced l level event s).map (·.2))
    (script : Script) (s : Facility) :
    script.run nested s = (script.traced traced s).map (·.2) := by
  induction script generalizing s with
  | done => rfl
  | step action next ih =>
    rw [Script.run, Script.traced, perform_eq_map_traced h]
    rcases action.traced traced s with _ | ⟨entry, t⟩
    · rfl
    · dsimp only [Option.map_some]
      rw [ih t t]
      cases hrest : (next t).traced traced t <;> simp [hrest]

theorem fanOut_eq_map_traced
    (h : ∀ l level event s, nested l level event s = (traced l level event s).map (·.2))
    (behavior : Behavior) (l : LoggerId) (level : Level) (event : Event)
    (appenders : List AppenderId) (s : Facility) :
    fanOut behavior nested l level event appenders s =
      (fanOutTraced behavior traced l level event appenders s).map (·.2) := by
  induction appenders generalizing s with
  | nil => rfl
  | cons a rest ih =>
    rw [fanOut, fanOutTraced, run_eq_map_traced h]
    rcases (behavior a l level event s).traced traced s with _ | ⟨inner, t⟩
    · rfl
    · dsimp only [Option.map_some]
      rw [ih t]
      cases hrest : fanOutTraced behavior traced l level event rest t <;> simp [hrest]

end

/-- A call that tells its trace leaves what the call leaves. -/
theorem logWithin_eq_map_traced (behavior : Behavior) (depth : Nat) (l : LoggerId) (level : Level)
    (event : Event) (s : Facility) :
    logWithin behavior depth l level event s =
      (logTraced behavior depth l level event s).map (·.2) := by
  induction depth generalizing l level event s with
  | zero => rfl
  | succ depth ih =>
    rw [logWithin, logTraced]
    split
    · rfl
    · exact fanOut_eq_map_traced ih behavior l level event _ s

/-! ## Each call visits its addressees -/

/-- Every call that starts goes on to call those that the event is for in the facility as it is
then, after the moments before. -/
def Snapshots (s : Facility) (moments : List Moment) : Prop :=
  ∀ before l level event visited after, moments = before ++ .start l level event visited :: after →
    visited = (s.elapse before).addressees l level

theorem snapshots_nil (s : Facility) : s.Snapshots [] := by
  rintro (_ | ⟨_, _⟩) l level event visited after h <;> cases h

theorem snapshots_cons {s : Facility} {moment : Moment} {rest : List Moment} :
    s.Snapshots (moment :: rest) ↔
      (∀ l level event visited, moment = .start l level event visited →
        visited = s.addressees l level) ∧ (moment.effect s).Snapshots rest := by
  constructor
  · intro h
    refine ⟨fun l level event visited hstart => ?_, fun before l level event visited after heq => ?_⟩
    · exact h [] l level event visited rest (by rw [hstart, List.nil_append])
    · exact h (moment :: before) l level event visited after (by rw [heq, List.cons_append])
  · rintro ⟨hfirst, hrest⟩ before l level event visited after heq
    cases before with
    | nil =>
      obtain ⟨hstart, -⟩ := List.cons.inj heq
      exact hfirst l level event visited hstart
    | cons other before =>
      obtain ⟨rfl, htail⟩ := List.cons.inj heq
      exact hrest before l level event visited after htail

theorem Snapshots.append {s : Facility} {before after : List Moment} (h : s.Snapshots before)
    (h' : (s.elapse before).Snapshots after) : s.Snapshots (before ++ after) := by
  induction before generalizing s with
  | nil => exact h'
  | cons moment rest ih =>
    obtain ⟨hfirst, hrest⟩ := snapshots_cons.1 h
    exact snapshots_cons.2 ⟨hfirst, ih hrest h'⟩

/-- A trace leads from one facility to another, and its calls visit their addressees. -/
structure Tells (trace : Trace) (s t : Facility) : Prop where
  elapse : s.elapse trace.timeline = t
  snapshots : s.Snapshots trace.timeline

namespace Tells

variable {s t u : Facility} {inner rest : Trace}

theorem done (s : Facility) : Tells .done s s := ⟨rfl, snapshots_nil s⟩

theorem act {action : Action} (h : Tells rest (action.effect s) t) : Tells (.act action rest) s t where
  elapse := h.elapse
  snapshots := snapshots_cons.2 ⟨fun _ _ _ _ hstart => (nomatch hstart), h.snapshots⟩

theorem visit {a : AppenderId} (h : Tells inner s t) (h' : Tells rest t u) :
    Tells (.visit a inner rest) s u where
  elapse := by rw [Trace.timeline, elapse_append, h.elapse, h'.elapse]
  snapshots := h.snapshots.append (h.elapse ▸ h'.snapshots)

theorem call {l : LoggerId} {level : Level} {event : Event}
    (hvisited : inner.visited = s.addressees l level) (h : Tells inner s t) (h' : Tells rest t u) :
    Tells (.call l level event inner rest) s u where
  elapse := (h.visit (a := ⟨0⟩) h').elapse
  snapshots := by
    refine snapshots_cons.2 ⟨fun _ _ _ _ hstart => ?_, (h.visit (a := ⟨0⟩) h').snapshots⟩
    cases hstart
    exact hvisited

end Tells

/-- A call of a logger with a trace, which has visited the addressees of the event. -/
def TellsCall (nested : NestedTraced) : Prop :=
  ∀ l level event s trace t, nested l level event s = some (trace, t) →
    trace.visited = s.addressees l level ∧ Tells trace s t

section

variable {traced : NestedTraced}

theorem tells_actionTraced (h : TellsCall traced) {action : Action} {s t : Facility}
    {entry : Trace → Trace} (heq : action.traced traced s = some (entry, t)) {rest : Trace}
    {u : Facility} (hrest : Tells rest t u) :
    Tells (entry rest) s u ∧ (entry rest).visited = rest.visited := by
  cases action with
  | log l level event =>
    obtain ⟨inner, hnested, rfl⟩ := Action.traced_log.1 heq
    obtain ⟨hvisited, htells⟩ := h l level event s inner t hnested
    exact ⟨.call hvisited htells hrest, rfl⟩
  | _ =>
    cases heq
    exact ⟨.act hrest, rfl⟩

theorem tells_scriptTraced (h : TellsCall traced) {script : Script} {s t : Facility} {trace : Trace}
    (heq : script.traced traced s = some (trace, t)) : Tells trace s t ∧ trace.visited = [] := by
  induction script generalizing s trace t with
  | done =>
    cases heq
    exact ⟨.done s, rfl⟩
  | step action next ih =>
    obtain ⟨entry, mid, rest, hentry, hrest, rfl⟩ := Script.traced_step.1 heq
    obtain ⟨htells, hvisited⟩ := ih mid hrest
    obtain ⟨htells', hvisited'⟩ := tells_actionTraced h hentry htells
    exact ⟨htells', hvisited'.trans hvisited⟩

/-- A fan-out visits each entry of the list once, in order, whatever becomes of the list meanwhile.
-/
theorem tells_fanOutTraced (h : TellsCall traced) {behavior : Behavior} {l : LoggerId} {level : Level}
    {event : Event} {appenders : List AppenderId} {s t : Facility} {trace : Trace}
    (heq : fanOutTraced behavior traced l level event appenders s = some (trace, t)) :
    trace.visited = appenders ∧ Tells trace s t := by
  induction appenders generalizing s trace t with
  | nil =>
    cases heq
    exact ⟨rfl, .done s⟩
  | cons a rest ih =>
    obtain ⟨inner, mid, later, hinner, hlater, rfl⟩ := fanOutTraced_cons.1 heq
    obtain ⟨hvisited, htells⟩ := ih hlater
    exact ⟨congrArg (a :: ·) hvisited, (tells_scriptTraced h hinner).1.visit htells⟩

end

/-- Calls at any depth visit the addressees of their events at their starts. -/
theorem tells_logTraced (behavior : Behavior) (depth : Nat) : TellsCall (logTraced behavior depth) := by
  induction depth with
  | zero => exact fun _ _ _ _ _ _ heq => nomatch heq
  | succ depth ih =>
    intro l level event s trace t heq
    rw [logTraced] at heq
    rw [addressees]
    split at heq
    · next hlt =>
      cases heq
      rw [if_pos hlt]
      exact ⟨rfl, .done s⟩
    · next hle =>
      rw [if_neg hle]
      exact tells_fanOutTraced ih heq

/-! ## Depth is no matter -/

/-- Whatever the first kind of call answers, the second answers too. -/
def AnsweredBy (nested nested' : NestedTraced) : Prop :=
  ∀ l level event s answer, nested l level event s = some answer →
    nested' l level event s = some answer

section

variable {nested nested' : NestedTraced}

theorem AnsweredBy.action (h : AnsweredBy nested nested') {action : Action} {s t : Facility}
    {entry : Trace → Trace} (heq : action.traced nested s = some (entry, t)) :
    action.traced nested' s = some (entry, t) := by
  cases action with
  | log l level event =>
    obtain ⟨inner, hinner, rfl⟩ := Action.traced_log.1 heq
    exact Action.traced_log.2 ⟨inner, h l level event s _ hinner, rfl⟩
  | _ => exact heq

theorem AnsweredBy.script (h : AnsweredBy nested nested') {script : Script} {s t : Facility}
    {trace : Trace} (heq : script.traced nested s = some (trace, t)) :
    script.traced nested' s = some (trace, t) := by
  induction script generalizing s trace t with
  | done => exact heq
  | step action next ih =>
    obtain ⟨entry, mid, rest, hentry, hrest, rfl⟩ := Script.traced_step.1 heq
    exact Script.traced_step.2 ⟨entry, mid, rest, h.action hentry, ih mid hrest, rfl⟩

theorem AnsweredBy.fanOut (h : AnsweredBy nested nested') {behavior : Behavior} {l : LoggerId}
    {level : Level} {event : Event} {appenders : List AppenderId} {s t : Facility} {trace : Trace}
    (heq : fanOutTraced behavior nested l level event appenders s = some (trace, t)) :
    fanOutTraced behavior nested' l level event appenders s = some (trace, t) := by
  induction appenders generalizing s trace t with
  | nil => exact heq
  | cons a rest ih =>
    obtain ⟨inner, mid, later, hinner, hlater, rfl⟩ := fanOutTraced_cons.1 heq
    exact fanOutTraced_cons.2 ⟨inner, mid, later, h.script hinner, ih hlater, rfl⟩

end

/-- A call that returns does the same when it may nest deeper. -/
theorem answeredBy_succ (behavior : Behavior) (depth : Nat) :
    AnsweredBy (logTraced behavior depth) (logTraced behavior (depth + 1)) := by
  induction depth with
  | zero => exact fun _ _ _ _ _ heq => nomatch heq
  | succ depth ih =>
    intro l level event s answer heq
    rw [logTraced] at heq ⊢
    split at heq
    · next hlt =>
      rw [if_pos hlt]
      exact heq
    · next hle =>
      obtain ⟨trace, t⟩ := answer
      rw [if_neg hle]
      exact ih.fanOut heq

theorem logTraced_add {behavior : Behavior} {depth : Nat} {l : LoggerId} {level : Level}
    {event : Event} {s : Facility} {answer : Trace × Facility}
    (h : logTraced behavior depth l level event s = some answer) (more : Nat) :
    logTraced behavior (depth + more) l level event s = some answer := by
  induction more with
  | zero => exact h
  | succ more ih => exact answeredBy_succ behavior (depth + more) l level event s answer ih

end Facility

/-! ## Appenders that log marked copies -/

/-- What a logger is called with. -/
abbrev Request := LoggerId × Level × Event

/-- In the facilities of a class, which its actions do not leave, a script calls loggers with these
requests, in order. -/
def Script.Makes (I : Facility → Prop) : Script → List Request → Prop
  | done, requests => requests = []
  | step action next, requests =>
    match action with
    | .log l level event =>
      ∃ rest, requests = (l, level, event) :: rest ∧ ∀ s, I s → (next s).Makes I rest
    | action => (∀ s, I s → I (action.effect s)) ∧ ∀ s, I s → (next s).Makes I requests

/-- In the facilities of a class, which no appender leaves, a logger lets a level pass and lists
these appenders. The echoing ones of them call it again with one marked copy of each unmarked event,
at the same level; apart from that they call no logger. -/
structure Echoes (behavior : Behavior) (l : LoggerId) (level : Level) (appenders : List AppenderId)
    (echoing : AppenderId → Bool) (marked : Event → Bool) (I : Facility → Prop) : Prop where
  passes : ∀ s, I s → ¬ level < (s.logger l).level
  listed : ∀ s, I s → (s.logger l).appenders = appenders
  silent : ∀ a ∈ appenders, ∀ event s, I s → (marked event = true ∨ echoing a = false) →
    (behavior a l level event s).Makes I []
  copies : ∀ a ∈ appenders, ∀ event s, I s → marked event = false → echoing a = true →
    ∃ copy, marked copy = true ∧ (behavior a l level event s).Makes I [(l, level, copy)]

namespace Facility

section

variable {behavior : Behavior} {l : LoggerId} {level : Level} {appenders : List AppenderId}
  {echoing : AppenderId → Bool} {marked : Event → Bool} {I : Facility → Prop}
  {nested : NestedTraced}

/-- A request that is answered, without leaving a class of facilities, by a call that visits the
given appenders, these without calling a logger. -/
def AnswersFlat (nested : NestedTraced) (I : Facility → Prop) (appenders : List AppenderId)
    (request : Request) : Prop :=
  ∀ s, I s → ∃ inner t, nested request.1 request.2.1 request.2.2 s = some (inner, t) ∧ I t ∧
    inner.visited = appenders ∧ inner.fans = []

/-- A script makes one call for each of its requests. -/
theorem fans_scriptTraced {script : Script} {requests : List Request}
    (hmakes : script.Makes I requests) (hnested : ∀ r ∈ requests, AnswersFlat nested I appenders r)
    {s : Facility} (hs : I s) :
    ∃ trace t, script.traced nested s = some (trace, t) ∧ I t ∧
      trace.fans = List.replicate requests.length appenders := by
  induction script generalizing s requests with
  | done =>
    cases hmakes
    exact ⟨.done, s, rfl, hs, rfl⟩
  | step action next ih =>
    cases action with
    | log l level event =>
      obtain ⟨others, rfl, hnext⟩ := hmakes
      rw [List.forall_mem_cons] at hnested
      obtain ⟨inner, t, hinner, ht, hvisited, hfans⟩ := hnested.1 s hs
      obtain ⟨rest, u, hrest, hu, hfans'⟩ := ih t (hnext t ht) hnested.2 ht
      have hcall := Action.traced_log.2 ⟨inner, hinner, rfl⟩
      refine ⟨.call l level event inner rest, u, ?_, hu, ?_⟩
      · exact Script.traced_step.2 ⟨_, t, rest, hcall, hrest, rfl⟩
      · rw [Trace.fans_call, hvisited, hfans, hfans', List.nil_append, List.length_cons,
          List.replicate_succ]
    | _ =>
      obtain ⟨hkeeps, hnext⟩ := hmakes
      obtain ⟨rest, u, hrest, hu, hfans⟩ := ih _ (hnext _ (hkeeps s hs)) hnested (hkeeps s hs)
      exact ⟨_, u, Script.traced_step.2 ⟨_, _, rest, rfl, hrest, rfl⟩, hu, hfans⟩

/-- A fan-out makes one call for each entry whose script has a request. -/
theorem fans_fanOutTraced {event : Event} {asks : AppenderId → Bool} {entries : List AppenderId}
    (hscripts : ∀ a ∈ entries, ∀ s, I s → ∃ requests : List Request,
      (behavior a l level event s).Makes I requests ∧
        requests.length = (if asks a then 1 else 0) ∧
        ∀ r ∈ requests, AnswersFlat nested I appenders r) {s : Facility} (hs : I s) :
    ∃ trace t, fanOutTraced behavior nested l level event entries s = some (trace, t) ∧ I t ∧
      trace.visited = entries ∧
      trace.fans = List.replicate (entries.countP asks) appenders := by
  induction entries generalizing s with
  | nil => exact ⟨.done, s, rfl, hs, rfl, rfl⟩
  | cons a rest ih =>
    rw [List.forall_mem_cons] at hscripts
    obtain ⟨requests, hmakes, hlength, hnested⟩ := hscripts.1 s hs
    obtain ⟨inner, t, hinner, ht, hfans⟩ := fans_scriptTraced hmakes hnested hs
    obtain ⟨later, u, hlater, hu, hvisited, hfans'⟩ := ih hscripts.2 ht
    refine ⟨.visit a inner later, u, ?_, hu, congrArg (a :: ·) hvisited, ?_⟩
    · exact fanOutTraced_cons.2 ⟨inner, t, later, hinner, hlater, rfl⟩
    · rw [Trace.fans_visit, hfans, hfans', hlength, List.replicate_append_replicate,
        List.countP_cons, Nat.add_comm]

/-- A marked event is passed round once. -/
theorem answersFlat_of_marked (h : Echoes behavior l level appenders echoing marked I) {copy : Event}
    (hcopy : marked copy = true) (depth : Nat) :
    AnswersFlat (logTraced behavior (depth + 1)) I appenders (l, level, copy) := by
  intro s hs
  have hscripts : ∀ a ∈ appenders, ∀ s, I s → ∃ requests : List Request,
      (behavior a l level copy s).Makes I requests ∧ requests.length = (if false then 1 else 0) ∧
        ∀ r ∈ requests, AnswersFlat (logTraced behavior depth) I appenders r :=
    fun a ha s hs => ⟨[], h.silent a ha copy s hs (.inl hcopy), rfl, List.forall_mem_nil _⟩
  obtain ⟨trace, t, htrace, ht, hvisited, hfans⟩ := fans_fanOutTraced hscripts hs
  refine ⟨trace, t, ?_, ht, hvisited, ?_⟩
  · rw [logTraced, if_neg (h.passes s hs), h.listed s hs]
    exact htrace
  · rw [hfans, List.countP_false, Function.const_apply, List.replicate_zero]

/-- An unmarked event is passed round once by the call itself and once by each entry that echoes. -/
theorem fans_of_unmarked (h : Echoes behavior l level appenders echoing marked I) {event : Event}
    (hevent : marked event = false) {s : Facility} (hs : I s) :
    ∃ trace t, logTraced behavior 2 l level event s = some (trace, t) ∧
      (Trace.call l level event trace .done).fans =
        List.replicate (appenders.countP echoing + 1) appenders := by
  have hscripts : ∀ a ∈ appenders, ∀ s, I s → ∃ requests : List Request,
      (behavior a l level event s).Makes I requests ∧
        requests.length = (if echoing a then 1 else 0) ∧
        ∀ r ∈ requests, AnswersFlat (logTraced behavior 1) I appenders r := by
    intro a ha s hs
    cases hecho : echoing a with
    | false =>
      exact ⟨[], h.silent a ha event s hs (.inr hecho), rfl, List.forall_mem_nil _⟩
    | true =>
      obtain ⟨copy, hcopy, hmakes⟩ := h.copies a ha event s hs hevent hecho
      refine ⟨_, hmakes, rfl, ?_⟩
      rw [List.forall_mem_singleton]
      exact answersFlat_of_marked h hcopy 0
  obtain ⟨trace, t, htrace, -, hvisited, hfans⟩ := fans_fanOutTraced hscripts hs
  refine ⟨trace, t, ?_, ?_⟩
  · rw [logTraced, if_neg (h.passes s hs), h.listed s hs]
    exact htrace
  · rw [Trace.fans_call, hvisited, hfans, Trace.fans_done, List.append_nil, List.replicate_succ]

end

/-! ## The observers of this library -/

/-- Loggers are the same, and each appender reacts in the same way. -/
structure SameKinds (s t : Facility) : Prop where
  loggers : t.loggers = s.loggers
  reaction : ∀ a, (t.appender a).sink.reaction? = (s.appender a).sink.reaction?

theorem SameKinds.of_writes {s t u : Facility} {a : AppenderId} (h : SameKinds s t)
    (hw : Writes a t u) : SameKinds s u where
  loggers := hw.loggers.trans h.loggers
  reaction b := (hw.reaction b).trans (h.reaction b)

theorem makes_keep (s : Facility) (a : AppenderId) (l : LoggerId) (level : Level) (event : Event) :
    (Script.keep a l level event .done).Makes (SameKinds s) [] :=
  ⟨fun t ht => ht.of_writes (writes_countCall a t), fun _ _ =>
    ⟨fun t ht => ht.of_writes (writes_deposit a t l level event), fun _ _ => rfl⟩⟩

/-- Where observers only keep and echo, a call reconfigures nothing, and each echoing observer logs
one marked copy of an unmarked event. -/
theorem echoes_appenderScript {s : Facility}
    (hkinds : s.ReactsIn fun r => r = .keep ∨ r = .upperCase ∨ r = .echo) {l : LoggerId}
    {level : Level} (hpasses : ¬ level < (s.logger l).level) :
    Echoes appenderScript l level (s.logger l).appenders
      (fun a => (s.appender a).sink.reaction? = some .echo) Event.isEcho (SameKinds s) where
  passes t ht := by
    rw [logger, ht.loggers]
    exact hpasses
  listed t ht := by rw [logger, logger, ht.loggers]
  silent a _ event t ht hsilent := by
    rw [appenderScript]
    rw [← ht.reaction a] at hsilent
    have hkind : ∀ r, (t.appender a).sink.reaction? = some r → r = .keep ∨ r = .upperCase ∨ r = .echo :=
      fun r hr => hkinds a r (ht.reaction a ▸ hr)
    cases hsink : (t.appender a).sink with
    | observer o =>
      rw [hsink] at hsilent hkind
      rw [Sink.script]
      rcases hkind o.reaction rfl with hr | hr | hr
      · rw [hr]
        exact makes_keep s a l level event
      · rw [hr]
        exact makes_keep s a l level event
      · -- An echoing observer has been given a marked event.
        have hmarked : event.isEcho = true := by
          rcases hsilent with hmarked | hother
          · exact hmarked
          · simp [Sink.reaction?, hr] at hother
        rw [hr, Reaction.script, if_pos hmarked]
        exact makes_keep s a l level event
    | _ => exact ⟨fun u hu => hu.of_writes (writes_deposit a u l level event), fun _ _ => rfl⟩
  copies a _ event t ht hevent hecho := by
    rw [decide_eq_true_eq, ← ht.reaction a] at hecho
    refine ⟨event.echo, Event.isEcho_echo event, ?_⟩
    rw [appenderScript]
    cases hsink : (t.appender a).sink with
    | observer o =>
      rw [hsink] at hecho
      rw [Sink.script, Option.some.inj hecho, Reaction.script, if_neg (by rw [hevent]; decide)]
      exact ⟨[], rfl, fun _ _ => makes_keep s a l level event⟩
    | _ =>
      rw [hsink] at hecho
      cases hecho

theorem logTraced_appenderScript {l : LoggerId} {level : Level} {event : Event} {s t : Facility}
    {trace : Trace} (h : logTraced appenderScript 2 l level event s = some (trace, t)) :
    s.log l level event = t := by
  apply Option.get_of_eq_some
  rw [logWithin_eq_map_traced, h, Option.map_some]

/-! ## Main statement -/

/-- A call of a logger works on a snapshot, whatever appenders do, calls of loggers and changes of
loggers included. If it returns, it has visited the appenders that the event is for as it starts,
each entry of the list once and in order; so has every call that is nested in it, as of its own
start, after whatever was done up to then by the appenders of all calls. What the call leaves is
what these did, one after the other, and allowing calls to nest deeper changes nothing.

Where some entries of the list log one marked copy of each unmarked event and nothing is
reconfigured, a call with an unmarked event that passes the gate returns, and the list has been gone
through once more than it has such entries. The observers of this library do so. -/
theorem visits_snapshot :
    (∀ (behavior : Behavior) depth l level event s t,
      logWithin behavior depth l level event s = some t →
      ∃ trace, (∀ more, logTraced behavior (depth + more) l level event s = some (trace, t)) ∧
        trace.visited = s.addressees l level ∧ s.elapse trace.timeline = t ∧
        ∀ before l' level' event' visited after,
          trace.timeline = before ++ .start l' level' event' visited :: after →
          visited = (s.elapse before).addressees l' level') ∧
    (∀ behavior l level appenders echoing marked I,
      Echoes behavior l level appenders echoing marked I → ∀ event s, marked event = false → I s →
      ∃ trace t, logTraced behavior 2 l level event s = some (trace, t) ∧
        logWithin behavior 2 l level event s = some t ∧
        (Trace.call l level event trace .done).fans =
          List.replicate (appenders.countP echoing + 1) appenders) ∧
    ∀ (s : Facility) l level event, s.ReactsIn (fun r => r = .keep ∨ r = .upperCase ∨ r = .echo) →
      ¬ level < (s.logger l).level → event.isEcho = false →
      ∃ trace, logTraced appenderScript 2 l level event s = some (trace, s.log l level event) ∧
        (Trace.call l level event trace .done).fans =
          List.replicate
            ((s.logger l).appenders.countP
              (fun a => (s.appender a).sink.reaction? = some .echo) + 1)
            (s.logger l).appenders := by
  refine ⟨fun behavior depth l level event s t hlog => ?_,
    fun behavior l level appenders echoing marked I h event s hevent hs => ?_,
    fun s l level event hkinds hpasses hevent => ?_⟩
  · rw [logWithin_eq_map_traced] at hlog
    obtain ⟨⟨trace, t⟩, htrace, rfl⟩ := Option.map_eq_some_iff.1 hlog
    obtain ⟨hvisited, htells⟩ := tells_logTraced behavior depth l level event s trace t htrace
    exact ⟨trace, logTraced_add htrace, hvisited, htells.elapse, htells.snapshots⟩
  · obtain ⟨trace, t, htrace, hfans⟩ := fans_of_unmarked h hevent hs
    refine ⟨trace, t, htrace, ?_, hfans⟩
    rw [logWithin_eq_map_traced, htrace, Option.map_some]
  · have hechoes := echoes_appenderScript hkinds hpasses
    obtain ⟨trace, t, htrace, hfans⟩ := fans_of_unmarked hechoes hevent ⟨rfl, fun _ => rfl⟩
    exact ⟨trace, logTraced_appenderScript htrace ▸ htrace, hfans⟩

/-- An appender clears the list of its logger, attaches another one and logs the event again while
it is called: the list is gone through as it was, and the nested call goes through the new one. Of
three observers, one of them listed twice, two echo: four calls go through a list of four entries.
-/
theorem visits_snapshot_of_mutation :
    let shown : SharedLayout :=
      { stamp := 0, layout := { pattern := "%m", items := [.field .message], hasError := false } }
    let observer (reaction : Reaction) : Appender :=
      { layout := some shown, sink := .observer { reaction } }
    let s : Facility :=
      { loggers := ⟨[{ name := "app", layout := shown, appenders := [⟨0⟩, ⟨1⟩] },
          { name := "net", layout := shown, appenders := [⟨0⟩, ⟨1⟩, ⟨2⟩, ⟨0⟩] }]⟩
        appenders := ⟨[observer .echo, observer .keep, observer .echo]⟩ }
    let event : Event :=
      { owner := ⟨0⟩, level := .info, file := "main.rs", line := 1,
        stamp := { elapse := 0, thread := 1, fiber := 0, time := 0 }, message := "hi" }
    let behavior : Behavior := fun a l level event _ =>
      if a = ⟨0⟩ then
        .step (.clearAppenders l) fun _ => .step (.addAppender l ⟨2⟩) fun _ =>
          .step (.log l level event) fun _ => .step (.setLevel l .fatal) fun _ => .done
      else .step (.count a) fun _ => .done
    (∃ trace t, logWithin behavior 2 ⟨0⟩ .info event s = some t ∧
      logTraced behavior 9 ⟨0⟩ .info event s = some (trace, t) ∧ trace.visited = [⟨0⟩, ⟨1⟩] ∧
      trace.fans = [[⟨2⟩]]) ∧
    (∃ t, logWithin appenderScript 2 ⟨1⟩ .info event s = some t) ∧
    ∃ trace, logTraced appenderScript 2 ⟨1⟩ .info event s = some (trace, s.log ⟨1⟩ .info event) ∧
      (Trace.call ⟨1⟩ .info event trace .done).fans =
        List.replicate 4 [⟨0⟩, ⟨1⟩, ⟨2⟩, ⟨0⟩] := by
  intro shown observer s event behavior
  obtain ⟨hany, hechoing, hlibrary⟩ := visits_snapshot
  have hkinds : s.ReactsIn fun r => r = .keep ∨ r = .upperCase ∨ r = .echo := by
    rintro ⟨_ | _ | _ | index⟩ reaction ha
    all_goals cases ha
    · exact .inr (.inr rfl)
    · exact .inl rfl
    · exact .inr (.inr rfl)
  have hpasses : ¬ Level.info < (s.logger ⟨1⟩).level := by decide
  have hevent : event.isEcho = false := by decide
  refine ⟨?_, ?_, ?_⟩
  · obtain ⟨t, ht⟩ : ∃ t, logWithin behavior 2 ⟨0⟩ .info event s = some t := ⟨_, rfl⟩
    obtain ⟨trace, htrace, hvisited, -, -⟩ := hany behavior 2 ⟨0⟩ .info event s t ht
    have hfans : (logTraced behavior 2 ⟨0⟩ .info event s).map (·.1.fans) = some [[⟨2⟩]] := rfl
    rw [htrace 0] at hfans
    exact ⟨trace, t, ht, htrace 7, hvisited, Option.some.inj hfans⟩
  · obtain ⟨trace, t, -, ht, -⟩ := hechoing appenderScript ⟨1⟩ .info _ _ Event.isEcho _
      (echoes_appenderScript hkinds hpasses) event s hevent ⟨rfl, fun _ => rfl⟩
    exact ⟨t, ht⟩
  · exact hlibrary s ⟨1⟩ .info event hkinds hpasses hevent

end Facility

end EventLog
