import EventLog.Application.Statement
import EventLog.Proofs.Application.Wrap
import EventLog.Proofs.Facility.Snapshot

/-!
# The forms of a statement are one

A statement that logs a message does the same in each of its forms: it logs the event with its
message through its logger at its level, and its wrap is gone (`Program.execute_eq`). The shorthand
asks the gate before there is an event and the others only when the event arrives, in the opposite
sense of the comparison; as nothing changes in between, the shorthand leaves out exactly the events
that the logger drops (`Statement.shorthand_skips_iff`).

So a program may be written with its statements in any forms (`forms_agree`).
-/

namespace EventLog

namespace Program

/-! ## The wrap of a statement -/

/-- Changing the wrap that was just made is making it of the changed event. -/
theorem modifyWrap_newWrap (q : Program) (e : Event) (change : Event → Event) :
    (q.newWrap e).modifyWrap ⟨q.wraps.size⟩ (·.change change) = q.newWrap (change e) := by
  rw [modifyWrap, newWrap, newWrap, Store.modify_push_size]
  rfl

/-- Writing a text in parts is writing it at once. -/
theorem run_append_newWrap (q : Program) (e : Event) (parts : List String) :
    (q.newWrap e).run (parts.map (.append ⟨q.wraps.size⟩)) =
      q.newWrap (e.append (String.join parts)) := by
  -- On the parts, for any event: the first part is in the event when the rest is written.
  induction parts generalizing e with
  | nil =>
    rw [List.map_nil, run_nil, String.join_nil, Event.append, String.append_empty]
  | cons part rest ih =>
    rw [List.map_cons, run_cons, perform, modifyWrap_newWrap, ih, Event.append_append,
      String.join_cons]

/-- Leaving a scope in which no wrap was made changes nothing. -/
theorem leave_of_size_eq {n : Nat} {q : Program} (h : q.wraps.size = n) : q.leave n = q := by
  subst h
  rw [leave, Nat.sub_self]
  simp [Store.size]

/-- Leaving a scope in which one wrap was made delivers its event. -/
theorem leave_newWrap (q : Program) (e : Event) :
    (q.newWrap e).leave q.wraps.size = { q with app := q.app.deliver e } := by
  have hsize : (q.newWrap e).wraps.size - q.wraps.size = 1 := by
    rw [newWrap, Store.size_push, Nat.add_sub_cancel_left]
  have hwrap : (q.newWrap e).wrap ⟨q.wraps.size⟩ = .new e := by
    rw [wrap_newWrap, if_pos rfl]
  have hleft : (q.newWrap e).perform (.drop ⟨q.wraps.size⟩) =
      { app := q.app.deliver e, wraps := q.wraps.push {} } := by
    rw [perform, hwrap]
    exact congrArg (Program.mk _) (Store.modify_push_size q.wraps _ _)
  -- Leaving is that one drop, and forgetting the wrap that the drop has emptied.
  rw [leave, hsize, List.range'_one, List.reverse_singleton, List.map_singleton, run_cons, run_nil,
    hleft]
  simp [Store.push, Store.size]

end Program

/-- The gate that a shorthand call asks is the one that the logger asks again. -/
theorem Application.shorthand_eq (t : ThreadId) (l : LoggerId) (level : Level) (site : Site)
    (pieces : List Piece) (p : Application) :
    p.shorthand t l level site pieces =
      p.log l level ((p.capture t l level site).format pieces) := by
  rw [shorthand]
  split
  · rfl
  · next hgate =>
    rw [log, onFacility, Facility.log_of_lt (Level.not_le.1 hgate)]

namespace Statement

variable (st : Statement) (q : Program)

theorem shown_pieces : Piece.shown st.pieces = String.join st.parts := by
  rw [pieces]
  generalize st.parts = parts
  induction parts with
  | nil => rfl
  | cons part rest ih => rw [List.map_cons, Piece.shown, ih, String.join_cons]

theorem format_pieces (p : Application) : (st.start p).format st.pieces = st.event p := by
  rw [Event.format, shown_pieces, event]

/-! ## The gate -/

/-- The shorthand does nothing exactly for a level below the gate. -/
theorem shorthand_skips_iff :
    st.steps q .shorthand = [] ↔ st.level < (q.app.facility.logger st.logger).level := by
  rw [steps, ← Level.not_le]
  split
  · next h => simp [h]
  · next h => simp [h]

/-- An event below the gate changes nothing, whichever form brings it there. -/
theorem log_of_skips (h : st.steps q .shorthand = []) (event : Event) :
    q.app.log st.logger st.level event = q.app := by
  rw [Application.log, Application.onFacility,
    Facility.log_of_lt ((st.shorthand_skips_iff q).1 h)]

/-- A call of the logger goes through its list, unless the shorthand leaves the call out. -/
theorem visited_of_skips (event : Event) :
    ∃ trace, logTraced appenderScript 2 st.logger st.level event q.app.facility =
        some (trace, q.app.facility.log st.logger st.level event) ∧
      trace.visited = if (st.steps q .shorthand).isEmpty then []
        else (q.app.facility.logger st.logger).appenders := by
  have hreturns := isSome_logWithin_script 0 st.logger st.level event q.app.facility
  rw [Facility.logWithin_eq_map_traced, Option.isSome_map, Option.isSome_iff_exists] at hreturns
  obtain ⟨⟨trace, t⟩, htrace⟩ := hreturns
  have hvisited := (Facility.tells_logTraced _ _ _ _ _ _ trace t htrace).1
  refine ⟨trace, Facility.logTraced_appenderScript htrace ▸ htrace, hvisited.trans ?_⟩
  simp only [Facility.addressees, List.isEmpty_iff, shorthand_skips_iff]

end Statement

namespace Program

/-! ## Statements and programs -/

/-- A statement in any form logs its event, and leaves no wrap. -/
theorem execute_eq (form : Form) (st : Statement) (q : Program) :
    q.execute form st =
      { q with app := q.app.log st.logger st.level (st.event q.app) } := by
  rw [execute]
  cases form with
  | shorthand =>
    by_cases hgate : (q.app.facility.logger st.logger).level ≤ st.level
    · have hformat : (q.newWrap (st.start q.app)).perform (.format ⟨q.wraps.size⟩ st.pieces) =
          q.newWrap (st.event q.app) := by
        rw [perform, modifyWrap_newWrap, st.format_pieces]
      rw [Statement.steps, if_pos hgate, run_cons, run_cons, run_nil]
      exact (congrArg (leave q.wraps.size) hformat).trans (leave_newWrap q _)
    · have hskips : st.steps q .shorthand = [] := (st.shorthand_skips_iff q).2 (Level.not_le.1 hgate)
      rw [hskips, run_nil, leave_of_size_eq rfl, st.log_of_skips q hskips]
  | streamed =>
    have hwritten := run_append_newWrap q (st.start q.app) st.parts
    exact (congrArg (leave q.wraps.size) hwritten).trans (leave_newWrap q _)
  | direct => exact leave_of_size_eq rfl

theorem follow_inForm (form : Form) (q : Program) (line : Line) :
    q.follow (line.inForm form) = q.follow line := by
  cases line with
  | step s => rfl
  | log other st => exact (execute_eq form st q).trans (execute_eq other st q).symm

/-- A program does the same with all its statements in one form. -/
theorem followAll_inForm (form : Form) (q : Program) (lines : List Line) :
    q.followAll (lines.map (·.inForm form)) = q.followAll lines := by
  induction lines generalizing q with
  | nil => rfl
  | cons line rest ih =>
    rw [List.map_cons, followAll_cons, followAll_cons, follow_inForm, ih]

/-! ## Main statement -/

/-- The forms of a statement agree, in any state and for any logger, level and message. Whichever
form it has, a statement leaves the wraps as they were and the application as the plain call of the
logger does, and as the shorthand call and the stream call do. The shorthand makes no event exactly
when the level is below the gate; the call of the logger would then go through no appender, and else
it goes through the whole list. Hence a program leaves the same whatever the forms of its statements
are. -/
theorem forms_agree (q : Program) :
    (∀ (form : Form) (st : Statement),
      (q.execute form st).wraps = q.wraps ∧
      (q.execute form st).app = q.app.log st.logger st.level (st.event q.app) ∧
      (q.execute form st).app =
        q.app.shorthand st.thread st.logger st.level st.site st.pieces ∧
      (q.execute form st).app =
        q.app.streamed st.thread st.logger st.level st.site (String.join st.parts)) ∧
    (∀ st : Statement,
      (st.steps q .shorthand = [] ↔ st.level < (q.app.facility.logger st.logger).level) ∧
      ∃ trace,
        logTraced appenderScript 2 st.logger st.level (st.event q.app) q.app.facility =
          some (trace, q.app.facility.log st.logger st.level (st.event q.app)) ∧
        trace.visited = if (st.steps q .shorthand).isEmpty then []
          else (q.app.facility.logger st.logger).appenders) ∧
    ∀ (form : Form) (lines : List Line),
      q.followAll (lines.map (·.inForm form)) = q.followAll lines := by
  refine ⟨fun form st => ?_, fun st => ?_, fun form lines => followAll_inForm form q lines⟩
  · rw [execute_eq]
    refine ⟨rfl, rfl, ?_, rfl⟩
    rw [Application.shorthand_eq]
    exact congrArg (q.app.log _ _) (st.format_pieces q.app).symm
  · exact ⟨st.shorthand_skips_iff q, st.visited_of_skips q _⟩

/-- A program with one statement in each form, the second of them below the gate. -/
example :
    let shown : SharedLayout :=
      { stamp := 0
        layout :=
          { pattern := "%p:%m", items := [.field .level, .literal ":", .field .message]
            hasError := false } }
    let q : Program :=
      { app :=
          { facility :=
              { loggers := ⟨[{ name := "net", level := .warn, layout := shown, appenders := [⟨0⟩] }]⟩
                appenders := ⟨[{ layout := shown, sink := .memory [] }]⟩ }
            registry := { root := ⟨0⟩ } } }
    let st (level : Level) : Statement :=
      { thread := Threads.main, logger := ⟨0⟩, level, site := { file := "main.rs", line := 1 }
        parts := ["a", "", "b"] }
    let lines : List Line :=
      [.log .shorthand (st .warn), .log .streamed (st .info), .log .direct (st .fatal)]
    ((q.followAll lines).app.facility.appender ⟨0⟩).sink.lines = ["WARN:ab", "FATAL:ab"] := by
  decide +kernel

end Program

end EventLog
