import EventLog.Proofs.Facility.Attribution

/-!
# When a file appender is open

A file appender is open exactly if the last attempt to open its file succeeded, whatever happened to it
since: events that are written in part or not at all leave it open, and so does flushing it
(`lifecycle_run`). Nothing waits in front of the file between two calls. So flushing the appender finds
nothing to write and cannot fail, and opening the file again or letting the appender go writes nothing
to the file that was open.

The volume may refuse any opening and take any first part of a write before it fails; nothing is
assumed of it.
-/

namespace EventLog.FileAppender

open Output

variable {σ η : Type} {volume : Volume σ η}

/-- What the attempts of some calls to open the file come to, in order. Before an attempt the stream
that was open is let go. -/
def attempts (volume : Volume σ η) (state : FileAppender η × σ) :
    List Call → List (Except Fault η)
  | [] => []
  | call :: rest =>
    let later := attempts volume (perform volume state call) rest
    match call with
    | .reopen =>
      (volume.create state.1.sink.path (state.1.sink.release volume state.2)).1 :: later
    | _ => later

/-- What holds of the appender of a path between two calls, after some attempts to open its file. -/
structure AtRest (volume : Volume σ η) (path : String) (attempts : List (Except Fault η))
    (state : FileAppender η × σ) : Prop where
  isOpen_iff :
    state.1.sink.isOpen = true ↔ ∃ handle, attempts.getLast? = some (.ok handle)
  pending : ∀ stream, state.1.sink.stream = some stream → stream.buffer.pending = []
  flush : state.1.flush volume state.2 = (none, state)
  release : state.1.sink.release volume state.2 = state.2
  reopen : (state.1.reopen volume state.2).2.2 = (volume.create path state.2).2
  isOpen_perform : ∀ call, call ≠ .reopen →
    (perform volume state call).1.sink.isOpen = state.1.sink.isOpen
  isOpen_of_failed : ∀ error, (state.1.reopen volume state.2).1 = .error error →
    (perform volume state .reopen).1.sink.isOpen = false

/-! ## One call -/

section

variable (state : FileAppender η × σ)

/-- Nothing but opening the file again opens or closes an appender. -/
theorem isOpen_perform_of_ne {call : Call} (h : call ≠ .reopen) :
    (perform volume state call).1.sink.isOpen = state.1.sink.isOpen := by
  cases call with
  | log east logger level event =>
    rw [perform, log]
    split
    · rfl
    · exact (FileSink.log_keeps volume state.2 state.1.sink _).2
  | flush => exact FileSink.isOpen_flush volume state.2 state.1.sink
  | reopen => exact absurd rfl h
  | _ => rfl

/-- Opening the file again leaves the appender open exactly if the volume opens the path. -/
theorem isOpen_perform_reopen :
    (perform volume state .reopen).1.sink.isOpen =
      (volume.create state.1.sink.path (state.1.sink.release volume state.2)).1.isOk := by
  show (state.1.sink.reopen volume state.2).2.1.isOpen = _
  unfold FileSink.reopen
  split <;> next hcreate => rw [hcreate]; rfl

/-- Opening the file again does nothing to the volume but to let the stream go and open the path. -/
theorem reopen_snd_snd :
    (state.1.reopen volume state.2).2.2 =
      (volume.create state.1.sink.path (state.1.sink.release volume state.2)).2 := by
  show (state.1.sink.reopen volume state.2).2.2 = _
  unfold FileSink.reopen
  split <;> next hcreate => rw [hcreate]

/-- Where nothing waits, flushing an appender does nothing. -/
theorem flush_of_settled (h : state.1.sink.Settled) :
    state.1.flush volume state.2 = (none, state) := by
  rw [flush, FileSink.flush_of_settled volume state.2 h]

/-- A call that does not open the file is no attempt to open it. -/
theorem attempts_of_ne {call : Call} (h : call ≠ .reopen) : attempts volume state [call] = [] := by
  cases call with
  | reopen => exact absurd rfl h
  | _ => rfl

end

/-! ## Runs -/

theorem attempts_concat (state : FileAppender η × σ) (calls : List Call) (call : Call) :
    attempts volume state (calls ++ [call]) =
      attempts volume state calls ++ attempts volume (run volume state calls) [call] := by
  induction calls generalizing state with
  | nil => rfl
  | cons first rest ih =>
    have hrest := ih (perform volume state first)
    cases first <;> simp only [List.cons_append, attempts, hrest] <;> rfl

/-- An appender is open after a run exactly if the last attempt to open its file succeeded. -/
theorem isOpen_run (volume : Volume σ η) (path : String) (s : σ) (calls : List Call) :
    (run volume (unopened path, s) calls).1.sink.isOpen = true ↔
      ∃ handle, (attempts volume (unopened path, s) calls).getLast? = some (.ok handle) := by
  induction calls using List.reverseRecOn with
  | nil => exact ⟨nofun, fun h => nomatch h⟩
  | append_singleton before call ih =>
    rw [run_concat, attempts_concat]
    generalize run volume (unopened path, s) before = now at ih ⊢
    by_cases hcall : call = .reopen
    · subst hcall
      rw [isOpen_perform_reopen now, attempts, attempts, List.getLast?_concat]
      cases (volume.create now.1.sink.path (now.1.sink.release volume now.2)).1 with
      | error fault => exact ⟨nofun, fun h => nomatch h⟩
      | ok handle => exact ⟨fun _ => ⟨handle, rfl⟩, fun _ => rfl⟩
    · rw [isOpen_perform_of_ne now hcall, attempts_of_ne now hcall, List.append_nil, ih]

/-- A file appender between any two calls, from its making on. It is open exactly if the last attempt
to open its file succeeded: no other call changes that, and an attempt that fails leaves it closed.
Nothing waits in front of the file. So flushing tells no fault and does nothing, letting the stream go
does nothing, and opening the file again does nothing to the volume but to open the path. -/
theorem lifecycle_run (volume : Volume σ η) (path : String) (s : σ) (calls : List Call) :
    AtRest volume path (attempts volume (unopened path, s) calls)
      (run volume (unopened path, s) calls) := by
  have hopen := isOpen_run volume path s calls
  have hpath : (run volume (unopened path, s) calls).1.sink.path = path :=
    path_run (unopened path, s) calls
  have hsettled : (run volume (unopened path, s) calls).1.sink.Settled :=
    settled_run (FileSink.settled_of_closed rfl) calls
  generalize run volume (unopened path, s) calls = now at hopen hpath hsettled ⊢
  have hrelease := FileSink.release_of_settled volume now.2 hsettled
  exact
    { isOpen_iff := hopen
      pending := hsettled
      flush := flush_of_settled now hsettled
      release := hrelease
      reopen := by rw [reopen_snd_snd, hrelease, hpath]
      isOpen_perform := fun _ hcall => isOpen_perform_of_ne now hcall
      isOpen_of_failed := by
        intro error herror
        show (now.1.sink.reopen volume now.2).2.1.isOpen = false
        rw [FileSink.isOpen_reopen]
        exact congrArg Except.isOk herror }

end EventLog.FileAppender
