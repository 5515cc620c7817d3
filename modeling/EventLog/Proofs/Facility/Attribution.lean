import Mathlib.Data.List.DropRight
import Mathlib.Data.List.Forall2
import EventLog.Proofs.Facility.FileAppender
import EventLog.Proofs.Output.FileSink

/-!
# Which event the bytes of a file are from

Nothing waits in front of a file between the calls of its appender, so what a file receives during a
call is a part of the event of that call. Since it was last opened, a file has received one chunk for
each event that passed the gate, in the order of the calls (`contents_run`): all of the text where the
event was counted as written, and a first part of it where it was counted as failed. Whatever the
volume refuses, no bytes of one event come after bytes of a later one. So it is with the file appenders
of a facility, which write to files of a disk (`Facility.contents_run_of_file`).

The induction is on the calls from the last to the first, because a successful opening forgets
everything before it.
-/

namespace EventLog

namespace FileAppender

open Output

variable {σ η : Type} {volume : Volume σ η}

/-- Whether the call is one to log an event that passes the gate. -/
def Entry.accepted (entry : Entry η) : Bool := entry.text?.isSome

/-- The bytes of a chunk are what the file has from an accepted event: all of its text if it was
counted as written, a first part if it was counted as failed, and nothing while no stream was open. -/
def Entry.Adds (entry : Entry η) (chunk : List UInt8) : Prop :=
  ∃ text, entry.text? = some text ∧ FileSink.Adds entry.before.sink entry.after.sink text chunk

/-- The last calls of a history, since the file was last opened. -/
def sinceOpened (entries : List (Entry η)) : List (Entry η) :=
  entries.rtakeWhile fun entry => !entry.opens

/-! ## One call -/

section

variable (state : FileAppender η × σ) (call : Call)

theorem path_perform : (perform volume state call).1.sink.path = state.1.sink.path := by
  cases call with
  | log east logger level event =>
    rw [perform, log]
    split
    · rfl
    · exact (FileSink.log_keeps volume state.2 state.1.sink _).1
  | reopen => exact FileSink.path_reopen volume state.2 state.1.sink
  | flush =>
    show (state.1.sink.flush volume state.2).2.1.path = _
    unfold FileSink.flush
    split <;> rfl
  | _ => rfl

/-- After every call nothing waits in front of the file, if nothing did before. -/
theorem settled_perform (h : state.1.sink.Settled) :
    (perform volume state call).1.sink.Settled := by
  cases call with
  | log east logger level event =>
    rw [perform, log]
    split
    · exact h
    · exact FileSink.settled_log volume state.2 h _
  | reopen => exact FileSink.settled_reopen volume state.2 state.1.sink
  | flush =>
    show (state.1.sink.flush volume state.2).2.1.Settled
    rw [FileSink.flush_of_settled volume state.2 h]
    exact h
  | _ => exact h

variable {contents : σ → List UInt8} {serves : σ → Option η → Prop}

/-- After every call the appender fits the volume, if it did before. -/
theorem fit_perform (happends : volume.Appends state.1.sink.path contents serves)
    (h : state.1.sink.Fit serves state.2) :
    (perform volume state call).1.sink.Fit serves (perform volume state call).2 := by
  cases call with
  | log east logger level event =>
    rw [perform, log]
    split
    · exact h
    · exact FileSink.fit_log volume state.2 happends h _
  | reopen => exact (FileSink.contents_reopen volume state.2 happends h).2
  | flush =>
    show (state.1.sink.flush volume state.2).2.1.Fit serves (state.1.sink.flush volume state.2).2.2
    rw [FileSink.flush_of_settled volume state.2 h.settled]
    exact h
  | _ => exact ⟨h.settled, h.served⟩

/-- A call that opens the file leaves it empty. -/
theorem contents_perform_of_opens (happends : volume.Appends state.1.sink.path contents serves)
    (h : state.1.sink.Fit serves state.2)
    (hopens : Entry.opens ⟨state.1, call, (perform volume state call).1⟩ = true) :
    contents (perform volume state call).2 = [] := by
  cases call with
  | reopen => exact (FileSink.contents_reopen volume state.2 happends h).1.trans (if_pos hopens)
  | _ => cases hopens

/-- A call that does not open the file adds a chunk to it if it logs an event that passes the gate,
and nothing otherwise. -/
theorem contents_perform (happends : volume.Appends state.1.sink.path contents serves)
    (h : state.1.sink.Fit serves state.2)
    (hopens : Entry.opens ⟨state.1, call, (perform volume state call).1⟩ = false) :
    ∃ chunks, List.Forall₂ Entry.Adds
        ([⟨state.1, call, (perform volume state call).1⟩].filter Entry.accepted) chunks ∧
      contents (perform volume state call).2 = contents state.2 ++ chunks.flatten := by
  have hnothing : ∀ {entry : Entry η} {t : σ}, entry.text? = none → contents t = contents state.2 →
      ∃ chunks, List.Forall₂ Entry.Adds ([entry].filter Entry.accepted) chunks ∧
        contents t = contents state.2 ++ chunks.flatten := by
    intro entry t htext ht
    refine ⟨[], ?_, by rw [ht, List.flatten_nil, List.append_nil]⟩
    rw [List.filter_cons_of_neg, List.filter_nil]
    · exact .nil
    · rw [Entry.accepted, htext]
      exact Bool.false_ne_true
  cases call with
  | log east logger level event =>
    cases htext : state.1.render east logger level event with
    | none =>
      refine hnothing htext ?_
      rw [perform, log, htext]
    | some text =>
      obtain ⟨chunk, hcontents, hadds⟩ := FileSink.contents_log volume state.2 happends h text
      refine ⟨[chunk], ?_, ?_⟩
      · rw [List.filter_cons_of_pos, List.filter_nil]
        · refine .cons ⟨text, htext, ?_⟩ .nil
          rw [perform, log, htext]
          exact hadds
        · show (state.1.render east logger level event).isSome = true
          rw [htext, Option.isSome_some]
      · rw [perform, log, htext, List.flatten_singleton]
        exact hcontents
  | reopen =>
    refine hnothing rfl ((FileSink.contents_reopen volume state.2 happends h).1.trans (if_neg ?_))
    have hclosed : (state.1.sink.reopen volume state.2).2.1.isOpen = false := hopens
    rw [hclosed]
    exact Bool.false_ne_true
  | flush =>
    refine hnothing rfl ?_
    show contents (state.1.sink.flush volume state.2).2.2 = _
    rw [FileSink.flush_of_settled volume state.2 h.settled]
  | _ => exact hnothing rfl rfl

end

/-! ## Runs -/

theorem settled_run {state : FileAppender η × σ} (h : state.1.sink.Settled) (calls : List Call) :
    (run volume state calls).1.sink.Settled := by
  induction calls generalizing state with
  | nil => exact h
  | cons call rest ih => exact ih (settled_perform state call h)

theorem path_run (state : FileAppender η × σ) (calls : List Call) :
    (run volume state calls).1.sink.path = state.1.sink.path := by
  induction calls generalizing state with
  | nil => rfl
  | cons call rest ih => exact (ih _).trans (path_perform state call)

section

variable {contents : σ → List UInt8} {serves : σ → Option η → Prop} (state : FileAppender η × σ)

theorem fit_run (happends : volume.Appends state.1.sink.path contents serves)
    (h : state.1.sink.Fit serves state.2) (calls : List Call) :
    (run volume state calls).1.sink.Fit serves (run volume state calls).2 := by
  induction calls generalizing state with
  | nil => exact h
  | cons call rest ih =>
    refine ih _ ?_ (fit_perform state call happends h)
    rwa [path_perform]

theorem sinceOpened_concat (entries : List (Entry η)) (entry : Entry η) :
    sinceOpened (entries ++ [entry]) =
      if entry.opens then [] else sinceOpened entries ++ [entry] := by
  rw [sinceOpened, List.rtakeWhile_concat]
  cases entry.opens <;> rfl

/-- Since it was last opened, a file has received one chunk for each event that passed the gate. -/
theorem contents_run_of_fit (happends : volume.Appends state.1.sink.path contents serves)
    (h : state.1.sink.Fit serves state.2) (calls : List Call) :
    ∃ chunks, List.Forall₂ Entry.Adds
        ((sinceOpened (history volume state calls)).filter Entry.accepted) chunks ∧
      contents (run volume state calls).2 =
        (if (history volume state calls).any Entry.opens then [] else contents state.2) ++
          chunks.flatten := by
  induction calls using List.reverseRecOn with
  | nil => exact ⟨[], .nil, (List.append_nil _).symm⟩
  | append_singleton before call ih =>
    obtain ⟨chunks, hchunks, hcontents⟩ := ih
    have hfit := fit_run state happends h before
    have happends' : volume.Appends (run volume state before).1.sink.path contents serves := by
      rwa [path_run]
    rw [run_concat, history_concat, List.any_append, sinceOpened_concat]
    generalize run volume state before = now at hcontents hfit happends' ⊢
    cases hopens : Entry.opens ⟨now.1, call, (perform volume now call).1⟩ with
    | true =>
      -- The file is empty now, and what came before counts no longer.
      refine ⟨[], ?_, ?_⟩
      · rw [if_pos rfl]
        exact .nil
      · rw [contents_perform_of_opens now call happends' hfit hopens]
        simp [hopens]
    | false =>
      obtain ⟨added, hadded, hgrown⟩ := contents_perform now call happends' hfit hopens
      refine ⟨chunks ++ added, ?_, ?_⟩
      · rw [if_neg Bool.false_ne_true, List.filter_append]
        exact List.rel_append hchunks hadded
      · rw [hgrown, hcontents, List.flatten_append, List.append_assoc]
        simp [hopens]

/-! ## Runs without a failed write -/

/-- An entry of a history is a call on an appender that fits the volume, and what it left. -/
theorem of_mem_history (happends : volume.Appends state.1.sink.path contents serves)
    (h : state.1.sink.Fit serves state.2) {calls : List Call} {entry : Entry η}
    (hentry : entry ∈ history volume state calls) :
    ∃ s, entry.before.sink.Fit serves s ∧
      entry.after = (perform volume (entry.before, s) entry.call).1 := by
  induction calls generalizing state with
  | nil => cases hentry
  | cons call rest ih =>
    rw [history] at hentry
    rcases List.mem_cons.1 hentry with rfl | hrest
    · exact ⟨state.2, h, rfl⟩
    · refine ih _ ?_ (fit_perform state call happends h) hrest
      rwa [path_perform]

/-- If writes never fail, accepted events are counted as written whenever a stream is open. -/
theorem metrics_of_no_fault (happends : volume.Appends state.1.sink.path contents serves)
    (hreceive : ∀ bytes s handle, serves s (some handle) →
      (volume.receive bytes (s, handle)).fault = none)
    (h : state.1.sink.Fit serves state.2) {calls : List Call} {entry : Entry η}
    (hentry : entry ∈ (sinceOpened (history volume state calls)).filter Entry.accepted)
    (hopen : entry.before.sink.isOpen = true) :
    entry.after.sink.metrics = entry.before.sink.metrics.recordWritten := by
  obtain ⟨hlast, haccepted⟩ := List.mem_filter.1 hentry
  have hmem : entry ∈ history volume state calls := (List.rtakeWhile_suffix _ _).subset hlast
  obtain ⟨s, hfit, hafter⟩ := of_mem_history state happends h hmem
  obtain ⟨text, htext⟩ := Option.isSome_iff_exists.1 haccepted
  rw [hafter]
  unfold Entry.text? at htext
  split at htext
  · next east logger level event hcall =>
    rw [hcall, perform, log, htext]
    exact FileSink.metrics_log_of_no_fault volume s hreceive hfit hopen text
  · cases htext

end

/-- The bytes of an event that was logged while a stream was open. -/
def Entry.bytes (entry : Entry η) : List UInt8 :=
  if entry.before.sink.isOpen then (entry.text?.map Text.utf8).getD [] else []

/-- An accepted event that was counted as written whenever a stream was open adds all its bytes. -/
theorem Entry.Adds.eq_bytes {entry : Entry η} {chunk : List UInt8} (h : entry.Adds chunk)
    (hwritten : entry.before.sink.isOpen = true →
      entry.after.sink.metrics = entry.before.sink.metrics.recordWritten) :
    chunk = entry.bytes := by
  obtain ⟨text, htext, hadds⟩ := h
  rw [bytes, htext]
  cases hadds with
  | written hopen hcount =>
    rw [if_pos hopen]
    rfl
  | failed hcount hpart hclosed =>
    by_cases hopen : entry.before.sink.isOpen = true
    · have hboth := (hwritten hopen).symm.trans hcount
      exact (Metrics.recordWritten_ne_recordFailed _ hboth).elim
    · rw [if_neg hopen]
      exact hclosed (by simpa using hopen)

theorem flatten_eq_bytes {entries : List (Entry η)} {chunks : List (List UInt8)}
    (h : List.Forall₂ Entry.Adds entries chunks)
    (hwritten : ∀ entry ∈ entries, entry.before.sink.isOpen = true →
      entry.after.sink.metrics = entry.before.sink.metrics.recordWritten) :
    chunks.flatten = entries.flatMap Entry.bytes := by
  induction h with
  | nil => rfl
  | cons hfirst hrest ih =>
    rw [List.forall_mem_cons] at hwritten
    rw [List.flatten_cons, List.flatMap_cons, hfirst.eq_bytes hwritten.1, ih hwritten.2]

/-- The contents of a file stay attributable to events under failing writes. Since it was last opened,
the file has received one chunk for each event that passed the gate, in the order of the calls: all of
the text of an event that was counted as written, a first part of one that was counted as failed, and
nothing of one that was logged while no stream was open. Opening the file empties it; before it is
opened it is left as it is. If no event failed while a stream was open, as when writes never fail, the
file has received the texts in full. Letting the stream go in the end writes nothing. -/
theorem contents_run (volume : Volume σ η) (path : String) (contents : σ → List UInt8)
    (serves : σ → Option η → Prop) (happends : volume.Appends path contents serves) (s : σ)
    (hserves : serves s none) (calls : List Call) :
    let entries := history volume (unopened path, s) calls
    let final := run volume (unopened path, s) calls
    let accepted := (sinceOpened entries).filter Entry.accepted
    let kept := if entries.any Entry.opens then [] else contents s
    (∃ chunks, List.Forall₂ Entry.Adds accepted chunks ∧
      contents final.2 = kept ++ chunks.flatten) ∧
    ((∀ entry ∈ accepted, entry.before.sink.isOpen = true →
        entry.after.sink.metrics = entry.before.sink.metrics.recordWritten) →
      contents final.2 = kept ++ accepted.flatMap Entry.bytes) ∧
    ((∀ bytes s handle, serves s (some handle) →
        (volume.receive bytes (s, handle)).fault = none) →
      contents final.2 = kept ++ accepted.flatMap Entry.bytes) ∧
    final.1.sink.release volume final.2 = final.2 := by
  have hfit : (unopened path : FileAppender η).sink.Fit serves s :=
    ⟨FileSink.settled_of_closed rfl, hserves⟩
  obtain ⟨chunks, hchunks, hcontents⟩ :=
    contents_run_of_fit (unopened path, s) happends hfit calls
  refine ⟨⟨chunks, hchunks, hcontents⟩, fun hwritten => ?_, fun hreceive => ?_, ?_⟩
  · rw [← flatten_eq_bytes hchunks hwritten]
    exact hcontents
  · rw [← flatten_eq_bytes hchunks fun _ =>
      metrics_of_no_fault (unopened path, s) happends hreceive hfit]
    exact hcontents
  · exact FileSink.release_of_settled volume _ (settled_run hfit.settled calls)

/-- Two bytes of a failed event stay before a later one, and an event that comes after the file could
not be opened again adds nothing. -/
theorem contents_run_of_half_written :
    let net : Logger :=
      { name := "net"
        layout := ⟨0, { pattern := "%m", items := [.field .message], hasError := false }⟩ }
    let event (message : String) : Event :=
      { owner := ⟨0⟩, level := .info, file := "main.rs", line := 1,
        stamp := { elapse := 0, thread := 1, fiber := 0, time := 0 }, message }
    let calls : List Call :=
      [.reopen, .log 0 net .info (event "half"), .setLevel .warn, .log 0 net .info (event "quiet"),
        .log 0 net .warn (event "done"), .flush, .reopen, .log 0 net .fatal (event "lost")]
    let tape : Tape :=
      { contents := Text.utf8 "old"
        openings := [none, some .notFound]
        writes := [some (2, .deviceFull)] }
    let entries := history Tape.volume (unopened "app.log", tape) calls
    ∃ chunks, List.Forall₂ Entry.Adds ((sinceOpened entries).filter Entry.accepted) chunks ∧
      chunks.flatten = Text.utf8 "hadone" := by
  intro net event calls tape entries
  obtain ⟨⟨chunks, hchunks, hcontents⟩, -⟩ :=
    contents_run Tape.volume "app.log" Tape.contents (fun _ _ => True) (Tape.appends "app.log") tape
      trivial calls
  have hopened : entries.any Entry.opens = true := by decide +kernel
  have hfinal : (run Tape.volume (unopened "app.log", tape) calls).2.contents =
      Text.utf8 "hadone" := by
    decide +kernel
  refine ⟨chunks, hchunks, ?_⟩
  rw [hfinal, if_pos hopened, List.nil_append] at hcontents
  exact hcontents.symm

end FileAppender

/-! ## File appenders of a facility -/

namespace Facility

open Output FileAppender

/-- A file appender of a facility that was just made fits the disk, unless its path leads to a device
that keeps nothing. -/
theorem fit_make {s : Facility} {path : String} (hserves : s.disk.Serves path none) :
    ∃ state, (s.newFileAppender path).2.fileState? ⟨s.appenders.size⟩ = some state ∧
      (s.openFileAppender path).2.fileState? ⟨s.appenders.size⟩ = some state ∧
      state.1.sink.path = path ∧ state.1.sink.Fit (Disk.Serves path) state.2 := by
  obtain ⟨hnew, hopen⟩ := fileState?_make s path
  have hfit : (unopened path : FileAppender Handle).sink.Fit (Disk.Serves path) s.disk :=
    ⟨FileSink.settled_of_closed rfl, hserves⟩
  refine ⟨_, hnew, hopen, path_perform _ .reopen, ?_⟩
  exact fit_perform (unopened path, s.disk) .reopen (Disk.appends path) hfit

/-- As long as only one file appender of a facility is called, the file at its path has received one
chunk for each event that passed the gate since the file was last opened. What each call leaves of the
appender and the disk is what the facility leaves of them (`fileState?_perform`). -/
theorem contents_run_of_file {s : Facility} {a : AppenderId} {state : FileAppender Handle × Disk}
    (hstate : s.fileState? a = some state)
    (hfit : state.1.sink.Fit (Disk.Serves state.1.sink.path) state.2)
    (calls : List FileAppender.Call) :
    ∃ chunks, List.Forall₂ Entry.Adds
        ((sinceOpened (FileAppender.history Disk.volume state calls)).filter Entry.accepted)
        chunks ∧
      (FileAppender.run Disk.volume state calls).2.content state.1.sink.path =
        (if (FileAppender.history Disk.volume state calls).any Entry.opens then []
          else s.disk.content state.1.sink.path) ++ chunks.flatten := by
  rw [(fileState?_eq_some.1 hstate).2]
  exact contents_run_of_fit state (Disk.appends state.1.sink.path) hfit calls

end Facility

end EventLog
