import EventLog.Application.Program
import EventLog.Proofs.Facility.Delivery
import EventLog.Proofs.Facility.Build

/-!
# A wrap delivers once, when it is dropped

To the application a program with wraps is a program without: making a wrap and writing into it change
nothing, and the first drop of a wrap is one call of the logger that its event was made for
(`Program.app_run`). Between the two only the message of the event grows, so the drop delivers the
event as it was made, with everything that was written into the wrap (`wrap_run`). Later drops deliver
nothing.

A call is made in the application as it is at that moment, so the gates and the layouts are those at
the drop, and an appender in memory has the events in the order of the drops (`sink_run`).
-/

namespace EventLog

/-! ## Calls that deliver nothing -/

namespace Facility.KeepsLines

variable {s t : Facility}

theorem of_addsAppenders (h : AddsAppenders s t) : KeepsLines s t where
  size := h.appendersSize
  reacts _ hs := hs.of_reaction h.reaction
  memory a lines ha hs := by rw [h.appender a ha, hs]

theorem addAppenders (l : LoggerId) (appenders : List AppenderId) (s : Facility) :
    KeepsLines s (s.addAppenders l appenders) := by
  induction appenders generalizing s with
  | nil => exact .refl s
  | cons a rest ih =>
    have hinherit : KeepsLines s (s.inherit l a) := .inherit s l a
    have hone : KeepsLines s (s.addAppender l a) := hinherit.trans (.of_appenders rfl)
    exact hone.trans (ih (s.addAppender l a))

theorem build [Calendar] (builder : LoggerBuilder) (s : Facility) :
    KeepsLines s (s.build builder).2 := by
  rw [Facility.build]
  dsimp only
  refine KeepsLines.trans (.of_appenders ?_) (.addAppenders _ builder.appenders _)
  cases builder.pattern <;> rfl

theorem adopt (target source : LoggerId) (s : Facility) :
    KeepsLines s (Registry.adopt target source s) := by
  have hclear : KeepsLines s (((s.setLevel target (s.logger source).level).setLayout target
      (s.logger source).layout).clearAppenders target) :=
    .of_appenders rfl
  exact hclear.trans (.addAppenders target _ _)

theorem enrollAll (built : List LoggerId) (s : Facility) (r : Registry) :
    KeepsLines s (r.enrollAll built s).1 := by
  induction built generalizing s r with
  | nil => exact .refl s
  | cons l rest ih =>
    have hone : KeepsLines s (r.enroll l s).1 := by
      rw [Registry.enroll]
      split
      · exact .adopt r.root l s
      · exact .refl s
    exact hone.trans (ih (r.enroll l s).1 (r.enroll l s).2)

theorem apply [Calendar] (configs : List Config.LoggerConfig) (s : Facility) (r : Registry) :
    KeepsLines s (r.apply configs s).2.1 := by
  obtain ⟨hextends, -⟩ := buildLoggers_cases configs s
  rw [Registry.apply]
  generalize s.buildLoggers configs = result at hextends ⊢
  obtain ⟨outcome, t⟩ := result
  have hbuilt : KeepsLines s t := .of_addsAppenders hextends.toAddsAppenders
  cases outcome with
  | ok built => exact hbuilt.trans (.enrollAll built t r)
  | error error => exact hbuilt

/-- A call that is no operation keeps all lines. -/
theorem perform_call [Calendar] (p : Application) {call : Call}
    (hcall : ∀ operation, call ≠ .operate operation) :
    KeepsLines p.facility (p.perform call).facility := by
  cases call with
  | operate operation => exact absurd rfl (hcall operation)
  | build builder => exact .build builder p.facility
  | configure config =>
    exact .of_addsAppenders (builtSince_buildLogger config p.facility).1.toAddsAppenders
  | apply configs => exact .apply configs p.facility p.registry
  | _ => exact .refl p.facility

end Facility.KeepsLines

namespace Program

/-! ## What a step means to the application -/

/-- The calls that a step makes. -/
def calls (q : Program) : Step → List Call
  | .call call => [call]
  | .drop w => ((q.wrap w).event.map fun e => Call.operate (.log e.owner e.level e)).toList
  | _ => []

theorem app_perform (q : Program) (step : Step) :
    (q.perform step).app = q.app.run (q.calls step) := by
  cases step with
  | drop w =>
    rw [perform, calls, Application.dropWrap]
    cases (q.wrap w).event <;> rfl
  | _ => rfl

/-- The application goes through the calls of the steps, and through nothing else. -/
theorem app_run (q : Program) (steps : List Step) :
    (q.run steps).app =
      q.app.run ((q.history steps).flatMap fun entry => entry.1.calls entry.2) := by
  induction steps generalizing q with
  | nil => rfl
  | cons step rest ih =>
    rw [history, List.flatMap_cons, Application.run_append, run_cons, ih, app_perform]

/-! ## What a step means to a wrap -/

/-- The event that a step makes a wrap of. -/
def created (q : Program) : Step → Option Event
  | .wrap event => some event
  | .capture t l level site => some (q.app.capture t l level site)
  | _ => none

/-- What a step writes into a wrap. -/
def Step.fragment (w : WrapId) : Step → String
  | .append v text => if v = w then text else ""
  | .format v pieces => if v = w then Piece.shown pieces else ""
  | _ => ""

/-- What some steps write into a wrap, one after the other. -/
def fragments (w : WrapId) : List Step → String
  | [] => ""
  | step :: rest => step.fragment w ++ fragments w rest

variable {q : Program} {w : WrapId}

theorem wrap_modifyWrap (q : Program) (v w : WrapId) (change : Wrap → Wrap) :
    (q.modifyWrap v change).wrap w =
      if w = v ∧ v.index < q.wraps.size then change (q.wrap w) else q.wrap w := by
  simp only [WrapId.ext_iff]
  exact Store.get_modify q.wraps v.index w.index change

theorem wrap_newWrap (q : Program) (e : Event) (w : WrapId) :
    (q.newWrap e).wrap w = if w.index = q.wraps.size then .new e else q.wrap w :=
  Store.get_push q.wraps (.new e) w.index

theorem size_le_perform (q : Program) (step : Step) :
    q.wraps.size ≤ (q.perform step).wraps.size := by
  have hnew : ∀ e, q.wraps.size ≤ (q.newWrap e).wraps.size := by
    intro e
    rw [newWrap, Store.size_push]
    omega
  cases step with
  | call call => exact Nat.le_refl _
  | wrap event => exact hnew event
  | capture t l level site => exact hnew _
  | append v text => exact Nat.le_of_eq (Store.size_modify ..).symm
  | format v pieces => exact Nat.le_of_eq (Store.size_modify ..).symm
  | drop v => exact Nat.le_of_eq (Store.size_modify ..).symm

theorem size_le_run (q : Program) (steps : List Step) :
    q.wraps.size ≤ (q.run steps).wraps.size := by
  induction steps generalizing q with
  | nil => exact Nat.le_refl _
  | cons step rest ih => exact Nat.le_trans (size_le_perform q step) (ih _)

theorem change_append_append (wrap : Wrap) (text more : String) :
    (wrap.change (·.append text)).change (·.append more) = wrap.change (·.append (text ++ more)) := by
  simp only [Wrap.change, Option.map_map, Function.comp_def, Event.append_append]

theorem change_append_empty (wrap : Wrap) : wrap.change (·.append "") = wrap := by
  have hsame : ∀ e : Event, e.append "" = e := by
    intro e
    rw [Event.append, String.append_empty]
  simp only [Wrap.change, hsame, Option.map_id']

/-- A step writes its fragment into a wrap, unless it drops the wrap. -/
theorem wrap_perform (hw : w.index < q.wraps.size) {step : Step} (hdrop : step ≠ .drop w) :
    (q.perform step).wrap w = (q.wrap w).change (·.append (step.fragment w)) := by
  have hnew : ∀ e, (q.newWrap e).wrap w = (q.wrap w).change (·.append "") := by
    intro e
    rw [wrap_newWrap, if_neg (Nat.ne_of_lt hw), change_append_empty]
  -- Writing into the wrap of some other number leaves this one alone.
  have hwrite : ∀ (v : WrapId) (text : String),
      (q.modifyWrap v (·.change (·.append text))).wrap w =
        (q.wrap w).change (·.append (if v = w then text else "")) := by
    intro v text
    rw [wrap_modifyWrap]
    by_cases hv : v = w
    · subst hv
      rw [if_pos ⟨rfl, hw⟩, if_pos rfl]
    · rw [if_neg fun hand => hv hand.1.symm, if_neg hv, change_append_empty]
  cases step with
  | call call => exact (change_append_empty (q.wrap w)).symm
  | wrap event => exact hnew event
  | capture t l level site => exact hnew _
  | append v text => exact hwrite v text
  | format v pieces => exact hwrite v (Piece.shown pieces)
  | drop v =>
    have hv : w ≠ v := by
      rintro rfl
      exact hdrop rfl
    have hkept : (q.perform (.drop v)).wrap w = q.wrap w := by
      rw [perform, wrap_modifyWrap, if_neg fun hand => hv hand.1]
      rfl
    exact hkept.trans (change_append_empty (q.wrap w)).symm

/-- As long as it is not dropped, a wrap holds its event with everything that was written into it. -/
theorem wrap_run (hw : w.index < q.wraps.size) {steps : List Step} (hdrop : .drop w ∉ steps) :
    (q.run steps).wrap w = (q.wrap w).change (·.append (fragments w steps)) := by
  induction steps generalizing q with
  | nil => exact (change_append_empty (q.wrap w)).symm
  | cons step rest ih =>
    rw [List.mem_cons, not_or] at hdrop
    obtain ⟨hfirst, hrest⟩ := hdrop
    rw [run_cons, ih (Nat.lt_of_lt_of_le hw (size_le_perform q step)) hrest,
      wrap_perform hw (Ne.symm hfirst), change_append_append, fragments]

theorem event_drop (hw : w.index < q.wraps.size) : ((q.perform (.drop w)).wrap w).event = none := by
  rw [perform, wrap_modifyWrap, if_pos ⟨rfl, hw⟩, Application.dropWrap]
  cases h : (q.wrap w).event with
  | none => exact h
  | some e => rfl

/-- Nothing fills a wrap again that is empty. -/
theorem event_perform_eq_none (hw : w.index < q.wraps.size) (hempty : (q.wrap w).event = none)
    (step : Step) : ((q.perform step).wrap w).event = none := by
  by_cases hdrop : step = .drop w
  · subst hdrop
    exact event_drop hw
  · rw [wrap_perform hw hdrop, Wrap.change, hempty]
    rfl

theorem wrap_created {step : Step} {e : Event} (h : q.created step = some e) :
    (q.perform step).wrap ⟨q.wraps.size⟩ = .new e ∧
      (⟨q.wraps.size⟩ : WrapId).index < (q.perform step).wraps.size := by
  have hnew : ∀ e, (q.newWrap e).wrap ⟨q.wraps.size⟩ = .new e ∧
      q.wraps.size < (q.newWrap e).wraps.size := by
    intro e
    refine ⟨by rw [wrap_newWrap, if_pos rfl], ?_⟩
    rw [newWrap, Store.size_push]
    omega
  cases step with
  | wrap event => exact Option.some.inj h ▸ hnew event
  | capture t l level site => exact Option.some.inj h ▸ hnew _
  | _ => cases h

/-! ## What the drops of one wrap make -/

/-- The calls that the drops of one wrap make, each with the application that it meets. -/
def deliveries (w : WrapId) (entries : List (Program × Step)) : List (Application × Call) :=
  entries.flatMap fun entry =>
    match entry.2 with
    | .drop v => if v = w then (entry.1.calls entry.2).map (entry.1.app, ·) else []
    | _ => []

theorem deliveries_cons (w : WrapId) (q : Program) (step : Step) (rest : List (Program × Step)) :
    deliveries w ((q, step) :: rest) = deliveries w [(q, step)] ++ deliveries w rest := by
  rw [deliveries, deliveries, deliveries, List.flatMap_cons, List.flatMap_singleton]

theorem deliveries_append (w : WrapId) (entries more : List (Program × Step)) :
    deliveries w (entries ++ more) = deliveries w entries ++ deliveries w more :=
  List.flatMap_append

theorem deliveries_of_ne {step : Step} (h : step ≠ .drop w) : deliveries w [(q, step)] = [] := by
  cases step with
  | drop v =>
    have hv : v ≠ w := by
      rintro rfl
      exact h rfl
    simp [deliveries, hv]
  | _ => rfl

theorem deliveries_drop (q : Program) (w : WrapId) :
    deliveries w [(q, .drop w)] = ((q.wrap w).event.map fun e =>
      (q.app, Call.operate (.log e.owner e.level e))).toList := by
  simp only [deliveries, calls, List.flatMap_singleton, if_pos]
  cases (q.wrap w).event <;> rfl

theorem deliveries_of_empty (hempty : (q.wrap w).event = none) (step : Step) :
    deliveries w [(q, step)] = [] := by
  by_cases hdrop : step = .drop w
  · rw [hdrop, deliveries_drop, hempty]
    rfl
  · exact deliveries_of_ne hdrop

/-- Without drops there is nothing to deliver. -/
theorem deliveries_of_not_mem {steps : List Step} (hdrop : .drop w ∉ steps) :
    deliveries w (q.history steps) = [] := by
  induction steps generalizing q with
  | nil => rfl
  | cons step rest ih =>
    rw [List.mem_cons, not_or] at hdrop
    obtain ⟨hfirst, hrest⟩ := hdrop
    rw [history, deliveries_cons, deliveries_of_ne (Ne.symm hfirst), ih hrest, List.append_nil]

/-- Before a wrap is made there is nothing to deliver. -/
theorem deliveries_of_size_le {steps : List Step} (hw : (q.run steps).wraps.size ≤ w.index) :
    deliveries w (q.history steps) = [] := by
  induction steps generalizing q with
  | nil => rfl
  | cons step rest ih =>
    have hsize : q.wraps.size ≤ w.index :=
      Nat.le_trans (size_le_run q (step :: rest)) hw
    have hempty : (q.wrap w).event = none := by
      rw [wrap, Store.get_of_size_le _ hsize]
      rfl
    rw [history, deliveries_cons, deliveries_of_empty hempty, ih hw, List.append_nil]

/-- Once a wrap is empty there is nothing to deliver any more. -/
theorem deliveries_of_event_none (hw : w.index < q.wraps.size) (hempty : (q.wrap w).event = none)
    (steps : List Step) : deliveries w (q.history steps) = [] := by
  induction steps generalizing q with
  | nil => rfl
  | cons step rest ih =>
    rw [history, deliveries_cons, deliveries_of_empty hempty,
      ih (Nat.lt_of_lt_of_le hw (size_le_perform q step)) (event_perform_eq_none hw hempty step),
      List.append_nil]

/-- The drops of a wrap that is made in a run make one call, at the first of them. -/
theorem deliveries_history (q : Program) {before middle after : List Step} {create : Step}
    {e : Event} (hcreate : (q.run before).created create = some e)
    (hdrop : .drop ⟨(q.run before).wraps.size⟩ ∉ middle) :
    deliveries ⟨(q.run before).wraps.size⟩
        (q.history (before ++ create :: (middle ++ .drop ⟨(q.run before).wraps.size⟩ :: after))) =
      [((q.run (before ++ create :: middle)).app,
        .operate (.log e.owner e.level
          (e.append (fragments ⟨(q.run before).wraps.size⟩ middle))))] := by
  generalize hw : (⟨(q.run before).wraps.size⟩ : WrapId) = w at hdrop ⊢
  obtain ⟨hmade, hthere⟩ := wrap_created hcreate
  rw [hw] at hmade hthere
  have hnotDrop : create ≠ .drop w := by
    rintro rfl
    cases hcreate
  have hwrap : (((q.run before).perform create).run middle).wrap w =
      .new (e.append (fragments w middle)) := by
    rw [wrap_run hthere hdrop, hmade]
    rfl
  have hthere' : w.index < (((q.run before).perform create).run middle).wraps.size :=
    Nat.lt_of_lt_of_le hthere (size_le_run _ middle)
  have hthere'' := Nat.lt_of_lt_of_le hthere' (size_le_perform _ (.drop w))
  rw [history_append, deliveries_append, deliveries_of_size_le (by rw [← hw]), history,
    deliveries_cons, deliveries_of_ne hnotDrop, history_append, deliveries_append,
    deliveries_of_not_mem hdrop, history, deliveries_cons, deliveries_drop, hwrap,
    deliveries_of_event_none hthere'' (event_drop hthere'), run_append, run_cons]
  rfl

/-! ## What an appender in memory collects -/

/-- The operation that a step performs on loggers and appenders, with the facility it meets: a drop of
a wrap is a call of a logger. -/
def operation? (entry : Program × Step) : Option (Facility × Operation) :=
  match entry.2 with
  | .call (.operate operation) => some (entry.1.app.facility, operation)
  | .drop w =>
    (entry.1.wrap w).event.map fun e => (entry.1.app.facility, .log e.owner e.level e)
  | _ => none

/-- A step performs an operation, or it keeps the lines of all appenders. -/
theorem perform_facility_cases (q : Program) (step : Step) :
    (∃ operation, operation? (q, step) = some (q.app.facility, operation) ∧
      (q.perform step).app.facility = q.app.facility.perform operation) ∨
    operation? (q, step) = none ∧
      Facility.KeepsLines q.app.facility (q.perform step).app.facility := by
  cases step with
  | call call =>
    cases call with
    | operate operation => exact .inl ⟨operation, rfl, rfl⟩
    | _ => exact .inr ⟨rfl, .perform_call q.app fun _ => nofun⟩
  | drop w =>
    rw [app_perform]
    dsimp only [operation?, calls]
    cases (q.wrap w).event with
    | none => exact .inr ⟨rfl, .refl _⟩
    | some e => exact .inl ⟨.log e.owner e.level e, rfl, rfl⟩
  | _ => exact .inr ⟨rfl, .refl _⟩

theorem keepsAppenders_run (hq : q.app.facility.Quiet) (steps : List Step) :
    Facility.KeepsAppenders q.app.facility (q.run steps).app.facility := by
  induction steps generalizing q with
  | nil => exact (Facility.KeepsLines.refl _).toKeepsAppenders
  | cons step rest ih =>
    have hone : Facility.KeepsAppenders q.app.facility (q.perform step).app.facility := by
      rcases perform_facility_cases q step with ⟨operation, -, hperform⟩ | ⟨-, hkeeps⟩
      · rw [hperform]
        exact Facility.keepsAppenders_perform hq operation
      · exact hkeeps.toKeepsAppenders
    exact hone.trans (ih (hone.reacts _ hq))

/-- The lines of an appender in memory are what the operations of the steps delivered, in order. -/
theorem sink_run (hq : q.app.facility.Quiet) {a : AppenderId}
    (ha : a.index < q.app.facility.appenders.size)
    (hs : (q.app.facility.appender a).sink = .memory []) (steps : List Step) :
    ((q.run steps).app.facility.appender a).sink =
      .memory (Facility.collected a ((q.history steps).filterMap operation?)) := by
  induction steps using List.reverseRecOn with
  | nil => exact hs
  | append_singleton before step ih =>
    have hkeeps := keepsAppenders_run hq before
    rw [run_append, history_append, List.filterMap_append]
    show (((q.run before).perform step).app.facility.appender a).sink = _
    rcases perform_facility_cases (q.run before) step with
      ⟨operation, hoperation, hperform⟩ | ⟨hnone, hkept⟩
    · have hlast : ((q.run before).history [step]).filterMap operation? =
          [((q.run before).app.facility, operation)] := by
        rw [history, List.filterMap_cons, hoperation]
        rfl
      rw [hlast, Facility.collected_concat, hperform]
      exact Facility.sink_perform (hkeeps.reacts _ hq) (ha.trans_le hkeeps.size) ih operation
    · have hlast : ((q.run before).history [step]).filterMap operation? = [] := by
        rw [history, List.filterMap_cons, hnone]
        rfl
      rw [hlast, List.append_nil]
      exact hkept.memory a _ (ha.trans_le hkeeps.size) ih

/-- Whatever a program does in between, each wrap delivers once. To the application the program is its
calls and, at each drop of a full wrap, one call of the logger that the event was made for. A wrap
that is not dropped makes no call. One that is made and then dropped makes one in the whole run, at
its first drop and in the application as it is then, with the event as it was made but for what was
written into the wrap since. An appender in memory has the events in the order of the drops, gated and
shown as at the drop. -/
theorem delivered_once (q : Program) (steps : List Step) :
    (q.run steps).app =
        q.app.run ((q.history steps).flatMap fun entry => entry.1.calls entry.2) ∧
    (∀ w, .drop w ∉ steps → deliveries w (q.history steps) = []) ∧
    (∀ (before middle after : List Step) (create : Step) (e : Event),
      (q.run before).created create = some e →
      .drop ⟨(q.run before).wraps.size⟩ ∉ middle →
      steps = before ++ create :: (middle ++ .drop ⟨(q.run before).wraps.size⟩ :: after) →
        deliveries ⟨(q.run before).wraps.size⟩ (q.history steps) =
          [((q.run (before ++ create :: middle)).app,
            .operate (.log e.owner e.level
              { e with
                message := e.message ++ fragments ⟨(q.run before).wraps.size⟩ middle }))]) ∧
    ∀ a : AppenderId, q.app.facility.Quiet → a.index < q.app.facility.appenders.size →
      (q.app.facility.appender a).sink = .memory [] →
        ((q.run steps).app.facility.appender a).sink.lines =
          Facility.collected a ((q.history steps).filterMap operation?) := by
  refine ⟨app_run q steps, fun w hdrop => deliveries_of_not_mem hdrop, ?_, fun a hq ha hs => ?_⟩
  · rintro before middle after create e hcreate hdrop rfl
    exact deliveries_history q hcreate hdrop
  · rw [sink_run hq ha hs steps, Sink.lines]

/-- Two wraps that are written in turns arrive in the order of their drops, with the fiber that was
running when they were made, though the name of the logger has been given away. A third is held back
by the gate at its drop, and a second drop of the first delivers nothing. -/
theorem delivered_once_of_interleaved :
    let shown : SharedLayout :=
      { stamp := 0
        layout :=
          { pattern := "%F:%m"
            items := [.field .fiberId, .literal ":", .field .message]
            hasError := false } }
    let q : Program :=
      { app :=
          { facility :=
              { loggers := ⟨[{ name := "root", layout := shown },
                  { name := "net", layout := shown, appenders := [⟨0⟩] },
                  { name := "net", layout := shown }]⟩
                appenders := ⟨[{ layout := shown, sink := .memory [] }]⟩ }
            registry := { root := ⟨0⟩, entries := [("net", ⟨1⟩)] } } }
    let site : Site := { file := "main.rs", line := 1 }
    let middle : List Step :=
      [.capture Threads.main ⟨1⟩ .info site, .append ⟨0⟩ "a", .append ⟨1⟩ "x",
        .call (.elapse (Threads.initial.setFiber Threads.main 7) { elapse := 5 }),
        .call (.register ⟨2⟩), .drop ⟨1⟩, .append ⟨0⟩ "b",
        .call (.operate (.setLevel ⟨1⟩ .warn)), .capture Threads.main ⟨1⟩ .info site]
    let steps : List Step :=
      .capture Threads.main ⟨1⟩ .warn site :: (middle ++ [.drop ⟨0⟩, .drop ⟨2⟩, .drop ⟨0⟩])
    (deliveries ⟨0⟩ (q.history steps)).map (·.2) =
        [.operate (.log ⟨1⟩ .warn
          { owner := ⟨1⟩, level := .warn, file := "main.rs", line := 1,
            stamp := { elapse := 0, thread := 1, fiber := 0, time := 0 }, message := "ab" })] ∧
      ((q.run steps).app.facility.appender ⟨0⟩).sink.lines = ["0:x", "0:ab"] := by
  intro shown q site middle steps
  have hquiet : q.app.facility.Quiet := by
    rintro ⟨_ | index⟩ reaction ha
    all_goals cases ha
  obtain ⟨-, -, hdeliveries, hlines⟩ := delivered_once q steps
  constructor
  · have hfirst := hdeliveries [] middle [.drop ⟨2⟩, .drop ⟨0⟩]
      (.capture Threads.main ⟨1⟩ .warn site) _ rfl (by simp [middle, q, Store.size]) rfl
    exact congrArg (List.map (·.2)) hfirst
  · rw [hlines ⟨0⟩ hquiet (by decide) rfl]
    decide +kernel

end Program

end EventLog
