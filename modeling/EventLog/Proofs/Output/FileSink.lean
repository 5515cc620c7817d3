import EventLog.Proofs.Output.Volume

/-!
# What a file receives

Between operations no bytes wait in front of a file (`FileSink.Settled`). So every event reaches the
device in one piece: either its bytes wait behind nothing and are flushed, or they go straight to the
device (`FileSink.put_eq`). Where the device fails, it has a first part of the event, and the rest is
thrown away with the buffer. Flushing, and letting the stream go, do nothing.

Where the file grows by what it takes (`Volume.Appends`), a sink that fits the volume adds to the file
what it counts (`contents_log`), and goes on to fit it.
-/

namespace EventLog.Output

variable {σ η δ : Type}

/-! ## Buffers with nothing waiting -/

theorem Buffer.flush_of_settled {b : Buffer} (h : b.pending = []) (receive : Receiver δ) (d : δ) :
    b.flush receive d = ⟨b, d, none⟩ := by
  rw [flush, if_pos h]

/-- Bytes that no others wait before wait themselves, or go straight to the device if they would fill
the buffer. -/
theorem Buffer.write_of_settled {b : Buffer} (h : b.pending = []) (receive : Receiver δ)
    (bytes : List UInt8) (d : δ) :
    b.write receive bytes d =
      if bytes.length < b.capacity then ⟨{ b with pending := bytes }, d, none⟩
      else ⟨b, (receive bytes d).device, (receive bytes d).fault⟩ := by
  have hthrough : b.capacity ≤ bytes.length →
      b.writeThrough receive bytes d = ⟨b, (receive bytes d).device, (receive bytes d).fault⟩ := by
    intro hle
    rw [writeThrough, if_pos hle]
  unfold write
  rw [h, List.length_nil, Nat.sub_zero]
  dsimp only
  by_cases hlt : bytes.length < b.capacity
  · rw [if_pos hlt, if_pos hlt, List.nil_append]
  · rw [if_neg hlt, if_neg hlt, flush_of_settled h]
    have hle : b.capacity ≤ bytes.length := by omega
    split
    · exact hthrough hle
    · exact hthrough hle

namespace FileSink

/-- No bytes wait in front of the file. -/
def Settled (f : FileSink η) : Prop := ∀ stream, f.stream = some stream → stream.buffer.pending = []

/-- No bytes wait in front of the file, and what is open on it, if anything is, may write it. -/
structure Fit (serves : σ → Option η → Prop) (f : FileSink η) (s : σ) : Prop where
  settled : f.Settled
  served : serves s (f.stream.map (·.handle))

theorem Fit.serves_handle {serves : σ → Option η → Prop} {f : FileSink η} {s : σ}
    (h : f.Fit serves s) {stream : Stream η} (hs : f.stream = some stream) :
    serves s (some stream.handle) := by
  have hserved := h.served
  rwa [hs] at hserved

theorem settled_of_closed {f : FileSink η} (h : f.stream = none) : f.Settled := by
  intro stream hs
  rw [h] at hs
  cases hs

section

variable {f : FileSink η} (volume : Volume σ η) (s : σ)

theorem flush_of_settled (h : f.Settled) : f.flush volume s = (none, f, s) := by
  unfold flush
  split
  · rfl
  · next stream hs =>
    rw [Buffer.flush_of_settled (h stream hs)]
    cases f
    cases hs
    rfl

/-- Letting a stream go writes nothing. -/
theorem release_of_settled (h : f.Settled) : f.release volume s = s := by
  rw [release, flush_of_settled volume s h]
  dsimp only
  rw [flush_of_settled volume s h]

/-- The bytes of an event reach the device in one piece. If it fails, the stream goes on with a new
buffer. -/
theorem put_eq {stream : Stream η} (hs : f.stream = some stream) (h : stream.buffer.pending = [])
    (bytes : List UInt8) :
    f.put volume bytes s =
      if bytes = [] ∧ 0 < stream.buffer.capacity then (.ok (), f, s)
      else
        let intake := volume.receive bytes (s, stream.handle)
        match intake.fault with
        | none =>
          (.ok (), { f with stream := some { stream with handle := intake.device.2 } },
            intake.device.1)
        | some fault =>
          (.error (.io fault), { f with stream := some { handle := intake.device.2 } },
            intake.device.1) := by
  obtain ⟨handle, buffer⟩ := stream
  obtain ⟨path, _, metrics⟩ := f
  cases hs
  obtain ⟨capacity, pending⟩ := buffer
  cases h
  unfold put
  dsimp only
  rw [Buffer.write_of_settled rfl]
  dsimp only
  by_cases hlt : bytes.length < capacity
  · rw [if_pos hlt]
    by_cases hempty : bytes = []
    · have hcapacity : 0 < capacity := by omega
      subst hempty
      rw [if_pos ⟨rfl, hcapacity⟩]
      rfl
    · rw [if_neg fun hboth => hempty hboth.1]
      dsimp only
      rw [Buffer.flush, if_neg hempty]
      dsimp only
      cases (volume.receive bytes (s, handle)).fault <;> rfl
  · have hcond : ¬ (bytes = [] ∧ 0 < capacity) := by
      rintro ⟨rfl, hcapacity⟩
      exact hlt hcapacity
    rw [if_neg hlt, if_neg hcond]
    dsimp only
    cases (volume.receive bytes (s, handle)).fault <;> rfl

/-! ## One event -/

/-- Writing keeps the path, the counters, and whether a stream is open. -/
theorem put_keeps (f : FileSink η) (bytes : List UInt8) :
    (f.put volume bytes s).2.1.path = f.path ∧
      (f.put volume bytes s).2.1.isOpen = f.isOpen ∧
      (f.put volume bytes s).2.1.metrics = f.metrics := by
  unfold put
  split
  · exact ⟨rfl, rfl, rfl⟩
  · next stream hs =>
    have hopen : f.isOpen = true := by rw [isOpen, hs, Option.isSome_some]
    dsimp only
    split
    · exact ⟨rfl, hopen.symm, rfl⟩
    · exact ⟨rfl, hopen.symm, rfl⟩

/-- An event leaves the sink and the volume as writing its bytes does, and counts what came of it. -/
theorem log_snd (f : FileSink η) (text : String) :
    (f.log volume text s).2 =
      ({ (f.put volume (Text.utf8 text) s).2.1 with
          metrics :=
            match (f.put volume (Text.utf8 text) s).1 with
            | .ok _ => f.metrics.recordWritten
            | .error _ => f.metrics.recordFailed.2 },
        (f.put volume (Text.utf8 text) s).2.2) := by
  have hmetrics := (put_keeps volume s f (Text.utf8 text)).2.2
  unfold log
  split
  · next g t h =>
    rw [h] at hmetrics ⊢
    rw [hmetrics]
  · next error g t h =>
    rw [h] at hmetrics ⊢
    rw [hmetrics]
    rfl

theorem settled_put (h : f.Settled) (bytes : List UInt8) : (f.put volume bytes s).2.1.Settled := by
  cases hs : f.stream with
  | none =>
    rw [put, hs]
    exact settled_of_closed hs
  | some stream =>
    rw [put_eq volume s hs (h stream hs)]
    split
    · exact h
    · dsimp only
      split
      · rintro _ ⟨⟩
        exact h stream hs
      · rintro _ ⟨⟩
        rfl

/-- The bytes that a call adds to a file: all of the text of an event that is counted as written; a
first part of the text of one that is counted as failed, and nothing while no stream is open. -/
inductive Adds (f after : FileSink η) (text : String) : List UInt8 → Prop
  | written (hopen : f.isOpen = true) (hcount : after.metrics = f.metrics.recordWritten) :
    Adds f after text (Text.utf8 text)
  | failed {chunk : List UInt8} (hcount : after.metrics = f.metrics.recordFailed.2)
      (hpart : chunk <+: Text.utf8 text) (hclosed : f.isOpen = false → chunk = []) :
    Adds f after text chunk

variable {contents : σ → List UInt8} {serves : σ → Option η → Prop}

/-- What a file has received grows by all the bytes that are put into it, or by a first part of them
if it fails, and by none while no stream is open. -/
theorem contents_put (happends : volume.Appends f.path contents serves) (h : f.Fit serves s)
    (bytes : List UInt8) :
    ∃ chunk, contents (f.put volume bytes s).2.2 = contents s ++ chunk ∧
      chunk <+: bytes ∧ (f.isOpen = false → chunk = []) ∧
      ((f.put volume bytes s).1 = .ok () → f.isOpen = true ∧ chunk = bytes) := by
  cases hs : f.stream with
  | none =>
    refine ⟨[], ?_, List.nil_prefix, fun _ => rfl, ?_⟩
    · rw [put, hs, List.append_nil]
    · rw [put, hs]
      rintro ⟨⟩
  | some stream =>
    have hopen : f.isOpen = true := by rw [isOpen, hs, Option.isSome_some]
    have hnot : f.isOpen = false → False := by
      rw [hopen]
      rintro ⟨⟩
    have hserved := h.serves_handle hs
    rw [put_eq volume s hs (h.settled stream hs)]
    split
    · next hempty =>
      refine ⟨[], ?_, List.nil_prefix, fun _ => rfl, fun _ => ⟨hopen, hempty.1.symm⟩⟩
      rw [List.append_nil]
    · refine ⟨bytes.take (volume.receive bytes (s, stream.handle)).taken, ?_, List.take_prefix .., ?_,
        ?_⟩
      · dsimp only
        split <;> exact (happends.receive bytes s stream.handle hserved).1
      · exact fun hclosed => (hnot hclosed).elim
      · dsimp only
        split
        · next hfault =>
          rw [happends.taken bytes s stream.handle hserved hfault, List.take_length]
          exact fun _ => ⟨hopen, rfl⟩
        · rintro ⟨⟩

/-- Whether bytes are taken or not, what is open goes on to fit the volume. -/
theorem fit_put (happends : volume.Appends f.path contents serves) (h : f.Fit serves s)
    (bytes : List UInt8) :
    (f.put volume bytes s).2.1.Fit serves (f.put volume bytes s).2.2 := by
  refine ⟨settled_put volume s h.settled bytes, ?_⟩
  cases hs : f.stream with
  | none =>
    rw [put, hs]
    exact h.served
  | some stream =>
    rw [put_eq volume s hs (h.settled stream hs)]
    split
    · exact h.served
    · dsimp only
      split <;> exact (happends.receive bytes s stream.handle (h.serves_handle hs)).2

/-- An event that is logged adds to the file what is counted. -/
theorem contents_log (happends : volume.Appends f.path contents serves) (h : f.Fit serves s)
    (text : String) :
    ∃ chunk, contents (f.log volume text s).2.2 = contents s ++ chunk ∧
      Adds f (f.log volume text s).2.1 text chunk := by
  obtain ⟨chunk, hcontents, hpart, hclosed, hok⟩ :=
    contents_put volume s happends h (Text.utf8 text)
  refine ⟨chunk, ?_, ?_⟩
  · rw [log_snd, hcontents]
  · rw [log_snd]
    cases hput : (f.put volume (Text.utf8 text) s).1 with
    | ok =>
      obtain ⟨hopen, rfl⟩ := hok hput
      exact .written hopen rfl
    | error => exact .failed rfl hpart hclosed

theorem fit_log (happends : volume.Appends f.path contents serves) (h : f.Fit serves s)
    (text : String) : (f.log volume text s).2.1.Fit serves (f.log volume text s).2.2 := by
  obtain ⟨hsettled, hserved⟩ := fit_put volume s happends h (Text.utf8 text)
  rw [log_snd]
  exact ⟨hsettled, hserved⟩

/-- If writes never fail, an event that is logged while a stream is open is counted as written. -/
theorem metrics_log_of_no_fault
    (hreceive : ∀ bytes s handle, serves s (some handle) →
      (volume.receive bytes (s, handle)).fault = none)
    (h : f.Fit serves s) (hopen : f.isOpen = true) (text : String) :
    (f.log volume text s).2.1.metrics = f.metrics.recordWritten := by
  obtain ⟨stream, hs⟩ := Option.isSome_iff_exists.1 hopen
  rw [log_snd, put_eq volume s hs (h.settled stream hs)]
  split
  · rfl
  · dsimp only
    rw [hreceive (Text.utf8 text) s stream.handle (h.serves_handle hs)]

theorem settled_log (h : f.Settled) (text : String) : (f.log volume text s).2.1.Settled := by
  rw [log_snd]
  exact settled_put volume s h (Text.utf8 text)

theorem log_keeps (f : FileSink η) (text : String) :
    (f.log volume text s).2.1.path = f.path ∧
      (f.log volume text s).2.1.isOpen = f.isOpen := by
  obtain ⟨hpath, hopen, -⟩ := put_keeps volume s f (Text.utf8 text)
  rw [log_snd]
  exact ⟨hpath, hopen⟩

/-! ## Refused events -/

/-- Whether bytes are refused: no stream is open, or writing them fails, or the flush after it. -/
def refuses (bytes : List UInt8) (f : FileSink η) (s : σ) : Bool :=
  match f.stream with
  | none => true
  | some stream =>
    let written := stream.buffer.write volume.receive bytes (s, stream.handle)
    written.fault.isSome || (written.buffer.flush volume.receive written.device).fault.isSome

/-- Writing bytes fails exactly if they are refused. -/
theorem put_cases (f : FileSink η) (bytes : List UInt8) :
    ((f.put volume bytes s).1 = .ok () ∧ refuses volume bytes f s = false) ∨
      ∃ error, (f.put volume bytes s).1 = .error error ∧ refuses volume bytes f s = true := by
  cases hs : f.stream with
  | none =>
    refine .inr ⟨.fileNotOpen, ?_, ?_⟩
    · rw [put, hs]
    · rw [refuses, hs]
  | some stream =>
    rw [put, refuses, hs]
    dsimp only
    cases hwrite : (stream.buffer.write volume.receive bytes (s, stream.handle)).fault with
    | none =>
      dsimp only
      cases hflush : ((stream.buffer.write volume.receive bytes (s, stream.handle)).buffer.flush
        volume.receive
        (stream.buffer.write volume.receive bytes (s, stream.handle)).device).fault with
      | none => exact .inl ⟨rfl, rfl⟩
      | some fault => exact .inr ⟨.io fault, rfl, rfl⟩
    | some fault =>
      dsimp only
      rw [hwrite]
      exact .inr ⟨.io fault, rfl, rfl⟩

/-- An event that is refused is counted as failed, and any other as written. -/
theorem metrics_log (f : FileSink η) (text : String) :
    (f.log volume text s).2.1.metrics =
      if refuses volume (Text.utf8 text) f s then f.metrics.recordFailed.2
      else f.metrics.recordWritten := by
  rw [log_snd]
  obtain ⟨hput, hrefuses⟩ | ⟨error, hput, hrefuses⟩ := put_cases volume s f (Text.utf8 text)
  · rw [hput, hrefuses]
    rfl
  · rw [hput, hrefuses]
    rfl

/-- What is told of an event. -/
theorem log_fst (f : FileSink η) (text : String) :
    (f.log volume text s).1 =
      match (f.put volume (Text.utf8 text) s).1 with
      | .ok _ => none
      | .error error =>
        if f.metrics.failed == 0 then some (.fileWriteFailed f.path error) else none := by
  obtain ⟨hpath, -, hmetrics⟩ := put_keeps volume s f (Text.utf8 text)
  unfold log
  split
  · next h => rw [h]
  · next h =>
    rw [h] at hpath hmetrics ⊢
    dsimp only at hpath hmetrics ⊢
    rw [hpath, hmetrics]
    rfl

/-- An event that is refused is told if no other has been since the counters were reset. -/
theorem isSome_log (f : FileSink η) (text : String) :
    (f.log volume text s).1.isSome =
      (refuses volume (Text.utf8 text) f s && f.metrics.failed == 0) := by
  rw [log_fst]
  obtain ⟨hput, hrefuses⟩ | ⟨error, hput, hrefuses⟩ := put_cases volume s f (Text.utf8 text)
  · rw [hput, hrefuses]
    rfl
  · rw [hput, hrefuses, Bool.true_and]
    dsimp only
    cases f.metrics.failed == 0 <;> rfl

/-- What is told of an event is that it could not be written to the path. -/
theorem exists_log_eq_some {f : FileSink η} {text : String} {diagnostic : Diagnostic}
    (h : (f.log volume text s).1 = some diagnostic) :
    ∃ error, diagnostic = .fileWriteFailed f.path error := by
  rw [log_fst] at h
  split at h
  · cases h
  · next error _ =>
    split at h
    · cases h
      exact ⟨error, rfl⟩
    · cases h

/-! ## Flushing and opening again -/

theorem metrics_flush (f : FileSink η) : (f.flush volume s).2.1.metrics = f.metrics := by
  unfold flush
  split <;> rfl

theorem isOpen_flush (f : FileSink η) : (f.flush volume s).2.1.isOpen = f.isOpen := by
  unfold flush
  split
  · rfl
  · next stream hs =>
    rw [isOpen, isOpen, hs]
    rfl

theorem metrics_reopen (f : FileSink η) : (f.reopen volume s).2.1.metrics = f.metrics := by
  unfold reopen
  split <;> rfl

theorem path_reopen (f : FileSink η) : (f.reopen volume s).2.1.path = f.path := by
  unfold reopen
  split <;> rfl

/-- A stream that has just been opened has nothing waiting, whatever was there before. -/
theorem settled_reopen (f : FileSink η) : (f.reopen volume s).2.1.Settled := by
  unfold reopen
  split
  · rintro _ ⟨⟩
    rfl
  · exact settled_of_closed rfl

/-- A stream is open exactly if opening it succeeded. -/
theorem isOpen_reopen (f : FileSink η) :
    (f.reopen volume s).2.1.isOpen = (f.reopen volume s).1.isOk := by
  unfold reopen
  split <;> rfl

/-- Opening again leaves an empty file if it succeeds, and the file as it was if it does not. What is
open then fits the volume. -/
theorem contents_reopen (happends : volume.Appends f.path contents serves) (h : f.Fit serves s) :
    contents (f.reopen volume s).2.2 =
        (if (f.reopen volume s).2.1.isOpen then [] else contents s) ∧
      (f.reopen volume s).2.1.Fit serves (f.reopen volume s).2.2 := by
  have hsettled := settled_reopen volume s f
  rw [reopen, release_of_settled volume s h.settled] at hsettled ⊢
  cases hcreate : volume.create f.path s with
  | mk result t =>
    rw [hcreate] at hsettled
    cases result with
    | ok handle =>
      obtain ⟨hcontents, hserved⟩ := happends.create_ok s _ handle t h.served hcreate
      exact ⟨hcontents, hsettled, hserved⟩
    | error fault =>
      obtain ⟨hcontents, hserved⟩ := happends.create_error s _ fault t h.served hcreate
      exact ⟨hcontents, hsettled, hserved⟩

end

end FileSink

end EventLog.Output
