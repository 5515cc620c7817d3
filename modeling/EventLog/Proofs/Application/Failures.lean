import EventLog.Application.Act
import EventLog.Proofs.Application.Identities
import EventLog.Proofs.Application.Statement

/-!
# Failures of threads are reported once

A thread that cannot be started is reported by the step that tries to, and one that has panicked by
the first step that joins it; no other step reports anything. The report is one call of the logger
that the registry has under its name for failures, or of the root, as the registry is at that
moment, and the step fails with the same name and text.

To the application a crew is its calls and these reports (`Crew.app_actAll`). A handle remembers
whether it was joined (`Crew.Joined`), so of all joins of one handle only the first can report
(`Crew.callsOf_joins`). The name in the report is the last that the thread has set: calls change
nothing of what is known of threads (`Crew.traced_actAll`).
-/

namespace EventLog

namespace Application

variable (p : Application)

/-! ## The report -/

/-- A report is one call of the logger for failures. -/
theorem report_eq (t : ThreadId) (failure : Failure) :
    p.report t failure = p.log p.systemLogger .error (p.failureEvent t failure) := by
  rw [report, shorthand_eq, failureEvent, Event.format, Piece.shown, Piece.shown,
    String.append_empty]

/-- Failures go to the logger that is registered for them, or to the root. -/
theorem systemLogger_eq :
    p.systemLogger = (p.registry.entries.find? "system").getD p.registry.root := by
  rw [systemLogger, Registry.get, if_neg (by decide)]

/-! ## Calls and threads -/

/-- The application with other threads. -/
def setThreads (ts : Threads) (p : Application) : Application := { p with threads := ts }

/-- What a call makes of all but the threads does not depend on the threads. -/
theorem perform_setThreads (call : Call) (ts us : Threads) :
    ((p.setThreads ts).perform call).setThreads us = (p.perform call).setThreads us := by
  cases call <;> rfl

theorem run_setThreads (calls : List Call) (ts us : Threads) :
    ((p.setThreads ts).run calls).setThreads us = (p.run calls).setThreads us := by
  induction calls generalizing p ts with
  | nil => rfl
  | cons call rest ih =>
    rw [run_cons, run_cons, ← ih ((p.setThreads ts).perform call) us, perform_setThreads, ih]

end Application

namespace Crew

/-! ## Runs of acts -/

variable {c c' mid : Crew} {acts more : List Act} {t : ThreadId} {position : Nat}

theorem actAll_cons {a : Act} : c.actAll (a :: acts) = some c' ↔
    ∃ mid, c.act a = some mid ∧ mid.actAll acts = some c' := by
  rw [actAll, List.foldlM_cons]
  exact Option.bind_eq_some_iff

theorem actAll_concat {a : Act} : c.actAll (acts ++ [a]) = some c' ↔
    ∃ mid, c.actAll acts = some mid ∧ mid.act a = some c' := by
  rw [actAll, List.foldlM_append]
  simp only [List.foldlM_cons, List.foldlM_nil, bind_pure, Option.bind_eq_bind,
    Option.bind_eq_some_iff, actAll]

/-! ## What a step comes to -/

/-- A step makes certain calls, leaves a certain crew, and gives a certain reply to the thread that
takes it. -/
structure ComesTo (c : Crew) (t : ThreadId) (step : Step) (calls : List Call) (left : Crew)
    (reply : Except Error Unit) : Prop where
  calls : c.calls (.step t step) = calls
  leaves : c.act (.step t step) = some left
  replies : c.reply t step = some reply

/-- The crew after a thread has logged how something failed. -/
def afterFailure (c : Crew) (t : ThreadId) (failure : Failure) : Crew :=
  { c with app := c.app.log c.app.systemLogger .error (c.app.failureEvent t failure) }

/-- The crew after a handle was joined. -/
def afterJoin (c : Crew) (position : Nat) (handle : ThreadHandle) : Crew :=
  { c with handles := c.handles.set position { handle with joined := true } }

/-- A thread is not started by a name that the system does not take, and nothing but the report
comes of it. -/
theorem spawn_of_nul (hruns : c.Runs t) {name : String} (hnul : '\x00' ∈ name.toList) :
    c.ComesTo t (.spawn name) [c.app.failureCall t (.spawn name .nulInThreadName)]
      (c.afterFailure t (.spawn name .nulInThreadName))
      (.error (.threadSpawn name .nulInThreadName)) := by
  have hname : Threads.startName name = name := by
    refine if_neg ?_
    rintro rfl
    cases hnul
  have hinvalid : ¬ Threads.isValidName name = true := by simpa [Threads.isValidName] using hnul
  have hspawn : c.app.spawn t name = (.error (.threadSpawn name .nulInThreadName),
      c.app.log c.app.systemLogger .error (c.app.failureEvent t (.spawn name .nulInThreadName))) := by
    rw [Application.spawn, hname, if_neg hinvalid, ← Application.report_eq]
  refine ⟨?_, ?_, ?_⟩
  · rw [calls, failure?, hname, if_neg hinvalid]
    rfl
  · rw [act, perform, if_pos hruns]
    simp only [hspawn]
    rfl
  · rw [reply, hspawn]
    rfl

/-- A thread is started by any other name, and nothing is reported. -/
theorem spawn_of_not_nul (hruns : c.Runs t) {name : String} (hnul : '\x00' ∉ name.toList) :
    c.ComesTo t (.spawn name) []
      { app := c.app.setThreads (c.threads.start (Threads.startName name)).2
        handles := c.handles ++ [(c.threads.start (Threads.startName name)).1] } (.ok ()) := by
  have hvalid := Threads.isValidName_startName hnul
  refine ⟨?_, perform_spawn hruns hvalid, ?_⟩
  · rw [calls, failure?, if_pos hvalid]
    rfl
  · rw [reply, Application.spawn, if_pos hvalid]
    rfl

section

variable {handle : ThreadHandle}

/-- What a step that joins does, given what joining comes to. -/
theorem perform_join (hruns : c.Runs t) (hhandle : c.handles[position]? = some handle)
    {result : Except Error Unit} {handle' : ThreadHandle} {app : Application}
    (hjoin : c.app.join t handle = some (result, handle', app)) :
    c.perform t (.join position) = some { app, handles := c.handles.set position handle' } ∧
      c.reply t (.join position) = some result := by
  rw [perform, if_pos hruns, reply]
  simp only [hhandle, hjoin, Option.map_some, Option.bind_eq_bind, Option.bind_some, Option.pure_def,
    and_self]

theorem join_of_joined (hruns : c.Runs t) (hhandle : c.handles[position]? = some handle)
    (hjoined : handle.joined = true) : c.ComesTo t (.join position) [] c (.ok ()) := by
  have hjoin : c.app.join t handle = some (.ok (), handle, c.app) := by
    rw [Application.join, if_pos hjoined]
  obtain ⟨hleaves, hreply⟩ := perform_join hruns hhandle hjoin
  refine ⟨?_, hleaves.trans ?_, hreply⟩
  · simp [calls, failure?, hhandle, hjoined]
  · obtain ⟨hlt, rfl⟩ := List.getElem?_eq_some_iff.1 hhandle
    rw [List.set_getElem_self]

theorem join_of_returned (hruns : c.Runs t) (hhandle : c.handles[position]? = some handle)
    (hjoined : handle.joined = false)
    (hstatus : (c.threads.state handle.thread).status = .returned) :
    c.ComesTo t (.join position) [] (c.afterJoin position handle) (.ok ()) := by
  have hjoin : c.app.join t handle = some (.ok (), { handle with joined := true }, c.app) := by
    rw [threads] at hstatus
    simp [Application.join, hjoined, hstatus]
  obtain ⟨hleaves, hreply⟩ := perform_join hruns hhandle hjoin
  refine ⟨?_, hleaves, hreply⟩
  simp [calls, failure?, hhandle, hjoined, hstatus]

theorem join_of_panicked (hruns : c.Runs t) (hhandle : c.handles[position]? = some handle)
    (hjoined : handle.joined = false) {panic : Panic}
    (hstatus : (c.threads.state handle.thread).status = .panicked panic) :
    c.ComesTo t (.join position)
      [c.app.failureCall t (.join (c.threads.infoOf handle).name panic.reason)]
      ((c.afterFailure t (.join (c.threads.infoOf handle).name panic.reason)).afterJoin
        position handle)
      (.error (.threadJoin (c.threads.infoOf handle).name panic.reason)) := by
  have hjoin : c.app.join t handle =
      some (.error (.threadJoin (c.threads.infoOf handle).name panic.reason),
        { handle with joined := true },
        c.app.log c.app.systemLogger .error
          (c.app.failureEvent t (.join (c.threads.infoOf handle).name panic.reason))) := by
    rw [← Application.report_eq]
    rw [threads] at hstatus
    simp [Application.join, hjoined, hstatus]
    exact ⟨rfl, rfl⟩
  obtain ⟨hleaves, hreply⟩ := perform_join hruns hhandle hjoin
  refine ⟨?_, hleaves, hreply⟩
  simp [calls, failure?, hhandle, hjoined, hstatus]

/-- A thread that is still running cannot be joined. -/
theorem join_of_running (hhandle : c.handles[position]? = some handle)
    (hjoined : handle.joined = false)
    (hstatus : (c.threads.state handle.thread).status = .running) :
    c.act (.step t (.join position)) = none := by
  have hjoin : c.app.join t handle = none := by
    rw [threads] at hstatus
    simp [Application.join, hjoined, hstatus]
  rw [act, perform]
  simp [hhandle, hjoin]

end

/-! ## What acts do -/

/-- What an act does to the handles: it adds some, or it joins one. -/
inductive Handles (c : Crew) : Act → List ThreadHandle → Prop
  | adds {a : Act} (made : List ThreadHandle) (unjoined : ∀ handle ∈ made, handle.joined = false)
      (joins : ∀ position, a.joins position = false) : Handles c a (c.handles ++ made)
  | joins (t : ThreadId) {position : Nat} {handle : ThreadHandle}
      (there : c.handles[position]? = some handle) :
    Handles c (.step t (.join position)) (c.handles.set position { handle with joined := true })

theorem Handles.same {a : Act} (joins : ∀ position, a.joins position = false) :
    Handles c a c.handles := by
  have hadds : Handles c a (c.handles ++ []) := .adds [] (List.forall_mem_nil _) joins
  rwa [List.append_nil] at hadds

theorem ComesTo.does {step : Step} {calls : List Call} {left : Crew} {reply : Except Error Unit}
    (h : c.ComesTo t step calls left reply)
    (hcalls : left.app = (c.app.run calls).setThreads left.threads)
    (hhandles : Handles c (.step t step) left.handles)
    (hact : c.act (.step t step) = some c') :
    c'.app = (c.app.run (c.calls (.step t step))).setThreads c'.threads ∧
      Handles c (.step t step) c'.handles := by
  cases h.leaves.symm.trans hact
  rw [h.calls]
  exact ⟨hcalls, hhandles⟩

/-- To the application an act is the calls that it comes to, but for the threads. -/
theorem does_act {a : Act} (h : c.act a = some c') :
    c'.app = (c.app.run (c.calls a)).setThreads c'.threads ∧ Handles c a c'.handles := by
  cases a with
  | call call =>
    cases h
    exact ⟨rfl, .same fun _ => rfl⟩
  | step t step =>
    have hruns : c.Runs t := runs_of_perform h
    -- Only starting and joining reach further than the threads.
    cases step with
    | spawn name =>
      by_cases hnul : '\x00' ∈ name.toList
      · exact (spawn_of_nul hruns hnul).does rfl (.same fun _ => rfl) h
      · refine (spawn_of_not_nul hruns hnul).does rfl (.adds _ ?_ fun _ => rfl) h
        rw [Threads.start_eq]
        exact List.forall_mem_singleton.2 rfl
    | join position =>
      cases hhandle : c.handles[position]? with
      | none =>
        rw [act, perform, if_pos hruns] at h
        simp only [hhandle] at h
        cases h
      | some handle =>
        have hjoins := Handles.joins t hhandle
        cases hjoined : handle.joined with
        | true =>
          refine (join_of_joined hruns hhandle hjoined).does rfl ?_ h
          obtain ⟨hlt, rfl⟩ := List.getElem?_eq_some_iff.1 hhandle
          rwa [← hjoined, List.set_getElem_self] at hjoins
        | false =>
          cases hstatus : (c.threads.state handle.thread).status with
          | running => cases (join_of_running hhandle hjoined hstatus).symm.trans h
          | returned => exact (join_of_returned hruns hhandle hjoined hstatus).does rfl hjoins h
          | panicked panic => exact (join_of_panicked hruns hhandle hjoined hstatus).does rfl hjoins h
    | _ =>
      rw [act, perform, if_pos hruns] at h
      cases h
      exact ⟨rfl, .same fun _ => rfl⟩

/-- To the application a crew is the calls and the reports of its acts, in order. -/
theorem app_actAll (h : c.actAll acts = some c') :
    c'.app = (c.app.run (c.callsOf (fun _ => true) acts)).setThreads c'.threads := by
  induction acts generalizing c with
  | nil =>
    cases h
    rfl
  | cons a rest ih =>
    obtain ⟨mid, hfirst, hrest⟩ := actAll_cons.1 h
    have hrun := ih hrest
    rw [(does_act hfirst).1, Application.run_setThreads] at hrun
    rw [hrun, callsOf, if_pos rfl, hfirst, Application.run_append]

/-! ## Joined handles -/

/-- A handle is joined once an act has joined it, and acts join handles that are there. -/
structure Joined (acts : List Act) (c : Crew) : Prop where
  joined : ∀ position handle, c.handles[position]? = some handle →
    handle.joined = acts.any (·.joins position)
  there : ∀ position, acts.any (·.joins position) = true → position < c.handles.length

theorem any_joins_concat (a : Act) (position : Nat) :
    (acts ++ [a]).any (·.joins position) =
      (acts.any (·.joins position) || a.joins position) := by
  rw [List.any_append, List.any_cons, List.any_nil, Bool.or_false]

theorem Joined.concat (h : Joined acts c) {a : Act} (hact : Handles c a c'.handles) :
    Joined (acts ++ [a]) c' := by
  generalize hhandles : c'.handles = handles at hact
  cases hact with
  | adds made hunjoined hjoins =>
    refine ⟨fun position handle hhandle => ?_, fun position hjoined => ?_⟩
    · rw [any_joins_concat, hjoins, Bool.or_false]
      rw [hhandles, List.getElem?_append] at hhandle
      split at hhandle
      · exact h.joined position handle hhandle
      · next hnew =>
        rw [hunjoined handle (List.mem_of_getElem? hhandle)]
        -- No act has joined a handle that was not there.
        cases hany : acts.any (·.joins position) with
        | false => rfl
        | true => exact absurd (h.there position hany) hnew
    · rw [any_joins_concat, hjoins, Bool.or_false] at hjoined
      rw [hhandles, List.length_append]
      exact Nat.lt_add_right _ (h.there position hjoined)
  | @joins t other joined hthere =>
    obtain ⟨hlt, -⟩ := List.getElem?_eq_some_iff.1 hthere
    refine ⟨fun position handle hhandle => ?_, fun position hjoined => ?_⟩
    · rw [any_joins_concat, Act.joins]
      rw [hhandles, List.getElem?_set] at hhandle
      by_cases heq : other = position
      · subst heq
        rw [if_pos rfl, if_pos hlt] at hhandle
        cases hhandle
        simp
      · rw [if_neg heq] at hhandle
        rw [h.joined position handle hhandle]
        simp [heq]
    · rw [hhandles, List.length_set]
      rw [any_joins_concat, Act.joins, Bool.or_eq_true, beq_iff_eq] at hjoined
      rcases hjoined with hold | rfl
      · exact h.there position hold
      · exact hlt

theorem joined_actAll {app : Application} (h : ({ app } : Crew).actAll acts = some c) :
    Joined acts c := by
  induction acts using List.reverseRecOn generalizing c with
  | nil =>
    cases h
    exact ⟨fun position handle hhandle => (nomatch hhandle), fun position hany => (nomatch hany)⟩
  | append_singleton before a ih =>
    obtain ⟨mid, hbefore, hact⟩ := actAll_concat.1 h
    exact (ih hbefore).concat (does_act hact).2

/-! ## What is known of the threads -/

theorem stepsOf_concat (acts : List Act) (a : Act) :
    stepsOf (acts ++ [a]) = stepsOf acts ++ stepsOf [a] :=
  List.filterMap_append

/-- Calls leave the threads and their handles alone, so what is known of them after steps is known
after acts. -/
theorem traced_actAll {app : Application} {numbers : Nat → Nat}
    (hthreads : app.threads = .alone numbers) (h : ({ app } : Crew).actAll acts = some c) :
    Traced numbers (stepsOf acts) c := by
  induction acts using List.reverseRecOn generalizing c with
  | nil =>
    cases h
    exact traced_alone hthreads
  | append_singleton before a ih =>
    obtain ⟨mid, hbefore, hact⟩ := actAll_concat.1 h
    have htraced := ih hbefore
    rw [stepsOf_concat]
    cases a with
    | step t step => exact htraced.concat (moved_perform hact)
    | call call =>
      cases hact
      rw [stepsOf, stepsOf, List.filterMap_cons, List.filterMap_nil, List.append_nil]
      exact { htraced with }

/-- A handle shows the name that its thread has now: the last that the thread has set, or the one
that it was started by. -/
theorem Traced.name_of_handle {numbers : Nat → Nat} {steps : List (ThreadId × Step)}
    (h : Traced numbers steps c) {handle : ThreadHandle} (hhandle : handle ∈ c.handles) :
    (c.threads.infoOf handle).name = (c.threads.state handle.thread).name ∧
      ∃ start, (origins steps)[handle.thread.index]? = some (some start) ∧
        (c.threads.state handle.thread).name =
          (lastSet Step.name? handle.thread steps).getD start := by
  have hinfo : (c.threads.state handle.thread).info = some handle.info :=
    (h.links _ _).1 (List.mem_map.2 ⟨handle, hhandle, rfl⟩)
  have hlt := Threads.lt_of_info hinfo
  rw [h.size] at hlt
  have horigin := List.getElem?_eq_getElem hlt
  cases hstart : (origins steps)[handle.thread.index] with
  | none =>
    rw [hstart] at horigin
    exact absurd rfl ((h.coherent.unnamed _ horigin).2.1 handle hhandle)
  | some start =>
    rw [hstart] at horigin
    obtain ⟨info, -, hname, hlast, -, -, hshows⟩ := h.coherent.named _ start horigin
    exact ⟨by rw [hshows handle hhandle rfl, hname], start, horigin, hname ▸ hlast⟩

/-! ## One report for all joins of a handle -/

variable {counts : Act → Bool}

theorem callsOf_append (h : c.actAll acts = some mid) :
    c.callsOf counts (acts ++ more) = c.callsOf counts acts ++ mid.callsOf counts more := by
  induction acts generalizing c with
  | nil =>
    cases h
    rfl
  | cons a rest ih =>
    obtain ⟨next, hfirst, hrest⟩ := actAll_cons.1 h
    rw [List.cons_append, callsOf, callsOf, hfirst, List.append_assoc]
    exact congrArg _ (ih hrest)

theorem callsOf_eq_nil (h : acts.any counts = false) : c.callsOf counts acts = [] := by
  induction acts generalizing c with
  | nil => rfl
  | cons a rest ih =>
    rw [List.any_cons, Bool.or_eq_false_iff] at h
    rw [callsOf, h.1, if_neg Bool.false_ne_true, List.nil_append]
    cases c.act a with
    | none => rfl
    | some next => exact ih h.2

/-- What has been joined stays so. -/
theorem Handles.keeps_joined {a : Act} {handles : List ThreadHandle} (h : Handles c a handles)
    {handle : ThreadHandle} (hhandle : c.handles[position]? = some handle)
    (hjoined : handle.joined = true) :
    ∃ handle', handles[position]? = some handle' ∧ handle'.joined = true := by
  obtain ⟨hlt, -⟩ := List.getElem?_eq_some_iff.1 hhandle
  cases h with
  | adds made => exact ⟨handle, by rw [List.getElem?_append_left hlt, hhandle], hjoined⟩
  | @joins t other joined there =>
    rw [List.getElem?_set]
    by_cases heq : other = position
    · subst heq
      exact ⟨_, by rw [if_pos rfl, if_pos hlt], rfl⟩
    · exact ⟨handle, by rw [if_neg heq, hhandle], hjoined⟩

theorem calls_of_joined {handle : ThreadHandle} (hhandle : c.handles[position]? = some handle)
    (hjoined : handle.joined = true) {a : Act} (ha : a.joins position = true) : c.calls a = [] := by
  cases a with
  | call call => cases ha
  | step t step =>
    cases step with
    | join other =>
      cases eq_of_beq ha
      simp [calls, failure?, hhandle, hjoined]
    | _ => cases ha

/-- Joins of a handle that was joined report nothing. -/
theorem callsOf_of_joined {handle : ThreadHandle} (hhandle : c.handles[position]? = some handle)
    (hjoined : handle.joined = true) : c.callsOf (·.joins position) acts = [] := by
  induction acts generalizing c handle with
  | nil => rfl
  | cons a rest ih =>
    have hnone : (if a.joins position then c.calls a else []) = [] := by
      split
      · next ha => exact calls_of_joined hhandle hjoined ha
      · rfl
    rw [callsOf, hnone, List.nil_append]
    cases hact : c.act a with
    | none => rfl
    | some next =>
      obtain ⟨handle', hhandle', hjoined'⟩ := (does_act hact).2.keeps_joined hhandle hjoined
      exact ih hhandle' hjoined'

/-- Of all joins of a handle only the first can report. -/
theorem callsOf_joins (hbefore : c.actAll acts = some mid)
    (hnone : acts.any (·.joins position) = false) :
    c.callsOf (·.joins position) (acts ++ .step t (.join position) :: more) =
      mid.calls (.step t (.join position)) := by
  have hjoins : (Act.step t (.join position)).joins position = true := beq_self_eq_true position
  rw [callsOf_append hbefore, callsOf_eq_nil hnone, List.nil_append, callsOf, if_pos hjoins]
  refine (congrArg _ ?_).trans (List.append_nil _)
  cases hact : mid.act (.step t (.join position)) with
  | none => rfl
  | some next =>
    have hhandles := (does_act hact).2
    generalize hnext : next.handles = handles at hhandles
    cases hhandles with
    | adds made hunjoined hno => exact absurd hjoins (by rw [hno]; exact Bool.false_ne_true)
    | @joins _ _ handle hthere =>
      obtain ⟨hlt, -⟩ := List.getElem?_eq_some_iff.1 hthere
      have hjoined : next.handles[position]? = some { handle with joined := true } := by
        rw [hnext, List.getElem?_set_self hlt]
      exact callsOf_of_joined hjoined rfl

/-! ## Main statement -/

/-- Failures of threads are reported once and through the right logger, whatever has happened before
and whatever the registry holds by then. They go to the logger that is registered for them at the
moment, or to the root. A thread cannot be started by a name that holds the character that ends
names: no thread changes and none is made, there is one call of that logger, and the step fails with
the name. By any other name it is started, and nothing is reported. The first join of a thread that
has panicked makes one call of that logger, with the name that the thread has set last and the text
of the panic, and fails with both; the first join of one that has returned succeeds and reports
nothing; later joins change nothing at all. Over a whole run the joins of one handle report what the
first of them reports, and the application has gone through the calls that were made and these
reports only. -/
theorem failures_reported_once (app : Application) (numbers : Nat → Nat)
    (hthreads : app.threads = .alone numbers) (acts : List Act) (c : Crew)
    (hrun : ({ app } : Crew).actAll acts = some c) :
    c.app.systemLogger = (c.app.registry.entries.find? "system").getD c.app.registry.root ∧
    (∀ t name, c.Runs t → '\x00' ∈ name.toList →
      c.ComesTo t (.spawn name) [c.app.failureCall t (.spawn name .nulInThreadName)]
        (c.afterFailure t (.spawn name .nulInThreadName))
        (.error (.threadSpawn name .nulInThreadName))) ∧
    (∀ t name, c.Runs t → '\x00' ∉ name.toList →
      c.ComesTo t (.spawn name) []
        { app := c.app.setThreads (c.threads.start (Threads.startName name)).2
          handles := c.handles ++ [(c.threads.start (Threads.startName name)).1] } (.ok ())) ∧
    (∀ t position, c.Runs t → acts.any (·.joins position) = true →
      c.ComesTo t (.join position) [] c (.ok ())) ∧
    (∀ t position handle, c.Runs t → acts.any (·.joins position) = false →
      c.handles[position]? = some handle →
      ((c.threads.state handle.thread).status = .returned →
        c.ComesTo t (.join position) [] (c.afterJoin position handle) (.ok ())) ∧
      ∀ panic, (c.threads.state handle.thread).status = .panicked panic →
        ∃ start name, (origins (stepsOf acts))[handle.thread.index]? = some (some start) ∧
          name = (lastSet Step.name? handle.thread (stepsOf acts)).getD start ∧
          c.ComesTo t (.join position) [c.app.failureCall t (.join name panic.reason)]
            ((c.afterFailure t (.join name panic.reason)).afterJoin position handle)
            (.error (.threadJoin name panic.reason))) ∧
    (∀ before t position after mid, acts = before ++ .step t (.join position) :: after →
      before.any (·.joins position) = false → ({ app } : Crew).actAll before = some mid →
      ({ app } : Crew).callsOf (·.joins position) acts = mid.calls (.step t (.join position))) ∧
    c.app = (app.run (({ app } : Crew).callsOf (fun _ => true) acts)).setThreads c.threads := by
  have hjoins := joined_actAll hrun
  have htraced := traced_actAll hthreads hrun
  refine ⟨c.app.systemLogger_eq, fun t name hruns hnul => spawn_of_nul hruns hnul,
    fun t name hruns hnul => spawn_of_not_nul hruns hnul, fun t position hruns hany => ?_,
    fun t position handle hruns hany hhandle => ?_, ?_,
    app_actAll hrun⟩
  · have hlt := hjoins.there position hany
    have hhandle := List.getElem?_eq_getElem hlt
    exact join_of_joined hruns hhandle ((hjoins.joined position _ hhandle).trans hany)
  · have hjoined : handle.joined = false := (hjoins.joined position handle hhandle).trans hany
    refine ⟨join_of_returned hruns hhandle hjoined, fun panic hstatus => ?_⟩
    obtain ⟨hshown, start, horigin, hname⟩ :=
      htraced.name_of_handle (List.mem_of_getElem? hhandle)
    have hcomes := join_of_panicked hruns hhandle hjoined hstatus
    rw [hshown] at hcomes
    exact ⟨start, _, horigin, hname, hcomes⟩
  · rintro before t position after mid rfl hnone hbefore
    exact callsOf_joins hbefore hnone

/-- Three threads are started, of which the first renames itself and panics; meanwhile a logger for
failures is registered, and the third thread, which has panicked too, is joined. Then a name is
refused, the first thread is joined under its new name, and the others have nothing to report. The
logger for failures gets a line for each of the three reports. -/
theorem failures_reported_once_of_renamed :
    let shown : SharedLayout := ⟨0, .compile "%p %f:%l %m"⟩
    let app : Application :=
      { facility :=
          { loggers := ⟨[{ name := "root", layout := shown },
              { name := "system", layout := shown, appenders := [⟨0⟩] }]⟩
            appenders := ⟨[{ layout := shown, sink := .memory [] }]⟩ }
        registry := { root := ⟨0⟩ }, threads := .alone (· + 1) }
    let before : List Act :=
      [.step ⟨0⟩ (.spawn "a"), .step ⟨1⟩ (.rename "worker"), .call (.register ⟨1⟩),
        .step ⟨1⟩ (.finish (some (.text "boom"))), .step ⟨0⟩ (.spawn "b"), .step ⟨2⟩ (.finish none),
        .step ⟨0⟩ (.spawn "c"), .step ⟨3⟩ (.finish (some .other))]
    let acts : List Act := before ++ [.step ⟨0⟩ (.join 2)]
    let after : List Act :=
      [.step ⟨0⟩ (.spawn "x\x00"), .step ⟨0⟩ (.join 0), .step ⟨0⟩ (.join 1), .step ⟨0⟩ (.join 0)]
    let lines (c : Crew) : List String := (c.app.facility.appender ⟨0⟩).sink.lines
    ∃ c mid, ({ app } : Crew).actAll acts = some c ∧ ({ app } : Crew).actAll before = some mid ∧
      c.app.systemLogger = ⟨1⟩ ∧
      (∃ fault, c.reply ⟨0⟩ (.spawn "x\x00") = some (.error (.threadSpawn "x\x00" fault)) ∧
        fault.kind = "InvalidInput") ∧
      (c.calls (.step ⟨0⟩ (.spawn "x\x00"))).length = 1 ∧ c.reply ⟨0⟩ (.spawn "d") = some (.ok ()) ∧
      c.reply ⟨0⟩ (.join 0) = some (.error (.threadJoin "worker" "boom")) ∧
      c.reply ⟨0⟩ (.join 1) = some (.ok ()) ∧ c.act (.step ⟨0⟩ (.join 2)) = some c ∧
      ({ app } : Crew).callsOf (·.joins 2) acts =
        [mid.app.failureCall ⟨0⟩ (.join "c" "Unknown panic")] ∧
      lines mid = [] ∧ (({ app } : Crew).actAll (acts ++ after)).map lines =
        some ["ERROR src/core/thread.rs:153 thread join failed, name=c panic=Unknown panic",
          "ERROR src/core/thread.rs:129 thread spawn failed, name=\"x\\0\" error=" ++
            "thread name may not contain interior NUL bytes",
          "ERROR src/core/thread.rs:153 thread join failed, name=worker panic=boom"] := by
  intro shown app before acts after lines
  let seen (c : Crew) : Bool × LoggerId × List (ThreadId × ThreadStatus) × Bool :=
    (decide (c.Runs ⟨0⟩), (c.app.registry.entries.find? "system").getD c.app.registry.root,
      c.handles.map (fun handle => (handle.thread, (c.threads.state handle.thread).status)),
      decide (lines c = []))
  let statuses : List (ThreadId × ThreadStatus) :=
    [(⟨1⟩, .panicked (.text "boom")), (⟨2⟩, .returned), (⟨3⟩, .panicked .other)]
  have hmid : (({ app } : Crew).actAll before).map seen = some (true, ⟨1⟩, statuses, true) := by
    decide +kernel
  have hc : (({ app } : Crew).actAll acts).map seen = some (true, ⟨1⟩, statuses, false) := by
    decide +kernel
  obtain ⟨mid, hbefore, hmid⟩ := Option.map_eq_some_iff.1 hmid
  obtain ⟨c, hrun, hc⟩ := Option.map_eq_some_iff.1 hc
  obtain ⟨hruns, hregistered, hhandles, -⟩ : c.Runs ⟨0⟩ ∧ _ ∧ c.handles.map _ = statuses ∧ _ := by
    simpa [seen] using hc
  obtain ⟨hruns', -, hhandles', hsilent⟩ :
      mid.Runs ⟨0⟩ ∧ _ ∧ mid.handles.map _ = statuses ∧ lines mid = [] := by
    simpa [seen] using hmid
  have hthere : ∀ (crew : Crew) (position : Nat) (entry : ThreadId × ThreadStatus),
      crew.handles.map (fun handle =>
        (handle.thread, (crew.threads.state handle.thread).status)) = statuses →
      statuses[position]? = some entry →
      ∃ handle, crew.handles[position]? = some handle ∧ handle.thread = entry.1 ∧
        (crew.threads.state handle.thread).status = entry.2 := by
    intro crew position entry hmap hentry
    rw [← hmap, List.getElem?_map] at hentry
    obtain ⟨handle, hhandle, rfl⟩ := Option.map_eq_some_iff.1 hentry
    exact ⟨handle, hhandle, rfl, rfl⟩
  obtain ⟨hsystem, hrefused, hstarted, hlater, hfirst, honce, -⟩ :=
    failures_reported_once app (· + 1) rfl acts c hrun
  obtain ⟨-, -, -, -, hfirst', -, -⟩ := failures_reported_once app (· + 1) rfl before mid hbefore
  obtain ⟨worker, hworker, hthread, hpanicked⟩ := hthere c 0 _ hhandles rfl
  obtain ⟨quiet, hquiet, -, hreturned⟩ := hthere c 1 _ hhandles rfl
  obtain ⟨third, hthird, hthread', hpanicked'⟩ := hthere mid 2 _ hhandles' rfl
  obtain ⟨start, name, horigin, rfl, hjoin⟩ :=
    (hfirst ⟨0⟩ 0 worker hruns rfl hworker).2 _ hpanicked
  obtain ⟨start', name', horigin', rfl, hjoin'⟩ :=
    (hfirst' ⟨0⟩ 2 third hruns' rfl hthird).2 _ hpanicked'
  rw [hthread] at horigin hjoin
  rw [hthread'] at horigin' hjoin'
  cases horigin
  cases horigin'
  have hnul : '\x00' ∈ "x\x00".toList := by decide
  have hspawn := hrefused ⟨0⟩ _ hruns hnul
  refine ⟨c, mid, hrun, hbefore, hsystem.trans hregistered, ⟨_, hspawn.replies, rfl⟩,
    by rw [hspawn.calls]; rfl, (hstarted ⟨0⟩ "d" hruns (by decide)).replies, hjoin.replies,
    ((hfirst ⟨0⟩ 1 quiet hruns rfl hquiet).1 hreturned).replies, (hlater ⟨0⟩ 2 hruns rfl).leaves,
    ?_, hsilent, ?_⟩
  · rw [honce before ⟨0⟩ 2 [] mid rfl rfl hbefore, hjoin'.calls]
    rfl
  · decide +kernel

end Crew

end EventLog
