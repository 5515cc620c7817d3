import EventLog.Output.FileSink
import EventLog.Proofs.Output.Disk

/-!
# Files that grow by what they take

`Volume.Appends` says what is relied on where a file is written: opening its path empties it or changes
nothing, and it grows by what the volume takes for the handle that is open on it. Nothing is asked of
other handles, nor of states of the volume in which something else came between.

A `Tape` is such a file that fails as a script has it. On a disk the file at a path is one as long as
only one writer opens the path and writes there (`Disk.appends`), unless the path leads to a device
that keeps nothing.
-/

namespace EventLog.Output

variable {σ η : Type}

/-- What is read of the file at a path is emptied by opening the path, and grows by what the volume
takes. `serves s handle?` says that in the state `s` the file may be written by the handle that is open
on it, if one is. Opening the path gives such a handle, and receiving keeps it one. -/
structure Volume.Appends (volume : Volume σ η) (path : String) (contents : σ → List UInt8)
    (serves : σ → Option η → Prop) : Prop where
  create_ok : ∀ s handle? handle t, serves s handle? → volume.create path s = (.ok handle, t) →
    contents t = [] ∧ serves t (some handle)
  create_error : ∀ s handle? fault t, serves s handle? → volume.create path s = (.error fault, t) →
    contents t = contents s ∧ serves t none
  receive : ∀ bytes s handle, serves s (some handle) →
    contents (volume.receive bytes (s, handle)).device.1 =
        contents s ++ bytes.take (volume.receive bytes (s, handle)).taken ∧
      serves (volume.receive bytes (s, handle)).device.1
        (some (volume.receive bytes (s, handle)).device.2)
  taken : ∀ bytes s handle, serves s (some handle) →
    (volume.receive bytes (s, handle)).fault = none →
    (volume.receive bytes (s, handle)).taken = bytes.length

/-! ## Files that fail as a script has it -/

/-- A file with what its next openings and writes come to: a fault, which for a write comes after some
of the bytes, or nothing of the kind. -/
structure Tape where
  contents : List UInt8 := []
  openings : List (Option Fault) := []
  writes : List (Option (Nat × Fault)) := []

/-- Opening empties the file, unless it fails; a write that fails takes some bytes before. -/
def Tape.volume : Volume Tape Unit where
  create _ tape :=
    match tape.openings with
    | some fault :: rest => (.error fault, { tape with openings := rest })
    | openings => (.ok (), { tape with contents := [], openings := openings.tail })
  receive bytes := fun (tape, _) =>
    match tape.writes with
    | some (count, fault) :: rest =>
      ⟨({ tape with contents := tape.contents ++ bytes.take count, writes := rest }, ()),
        count, some fault⟩
    | writes =>
      ⟨({ tape with contents := tape.contents ++ bytes, writes := writes.tail }, ()), bytes.length,
        none⟩

theorem Tape.appends (path : String) :
    Tape.volume.Appends path Tape.contents fun _ _ => True where
  create_ok := by
    rintro s _ handle t - h
    unfold Tape.volume at h
    dsimp only at h
    split at h
    · cases h
    · cases h
      exact ⟨rfl, trivial⟩
  create_error := by
    rintro s _ fault t - h
    unfold Tape.volume at h
    dsimp only at h
    split at h
    · cases h
      exact ⟨rfl, trivial⟩
    · cases h
  receive := by
    rintro bytes tape _ -
    refine ⟨?_, trivial⟩
    unfold Tape.volume
    dsimp only
    split
    · rfl
    · rw [List.take_length]
  taken := by
    rintro bytes tape _ - h
    unfold Tape.volume at h ⊢
    dsimp only at h ⊢
    split at h
    · cases h
    · rfl

/-! ## Files of a disk -/

namespace Disk

/-- The file at a path may be written by the handle that is open on it, if one is: the handle leads to
what the path leads to and stands at its end. -/
structure Serves (path : String) (d : Disk) (handle? : Option Handle) : Prop where
  keeps : d.standing? path ≠ some .sinkhole
  known : ∀ number, d.standing? path = some (.file number) → number < d.contents.length
  leads : ∀ handle, handle? = some handle → d.standing? path = some handle.node
  atEnd : ∀ number position, handle? = some (.file number position) →
    position = (d.bytes number).length

/-- What stands at a path has nothing to do with the bytes of files. -/
theorem standing?_contents (d : Disk) (contents : List (List UInt8)) (path : String) :
    ({ d with contents } : Disk).standing? path = d.standing? path := rfl

theorem overwrite_length (old new : List UInt8) : overwrite old old.length new = old ++ new := by
  simp [overwrite]

/-- Bytes that are written at the end of a file come after those that were there. -/
theorem bytes_modify {d : Disk} {number : Nat} (hknown : number < d.contents.length)
    (new : List UInt8) :
    ({ d with contents := d.contents.modify number (overwrite · (d.bytes number).length new) } :
      Disk).bytes number = d.bytes number ++ new := by
  have hold : d.contents[number]? = some (d.bytes number) := by
    rw [bytes, List.getElem?_eq_getElem hknown, List.getD_eq_getElem _ _ hknown]
  rw [bytes, List.getD_eq_getElem?_getD, List.getElem?_modify_eq, hold]
  exact overwrite_length _ _

variable {path : String} {d e : Disk} {handle? : Option Handle}

theorem Serves.content_eq {number position : Nat}
    (h : d.Serves path (some (.file number position))) : d.content path = d.bytes number := by
  rw [content, h.leads _ rfl]
  rfl

/-- What is open on a path may write the file there. -/
theorem Serves.create {handle : Handle} (h : d.Serves path handle?)
    (hcreate : d.create path = (.ok handle, e)) : e.Serves path (some handle) := by
  have hopened := opened_create path d
  have hcases := create_cases path d
  rw [hcreate] at hopened hcases
  obtain ⟨hstands, hempty, hstart⟩ := create_eq_ok hcreate
  refine ⟨fun hsinkhole => ?_, fun number hnumber => ?_, ?_, ?_⟩
  · rcases hopened.standing?_cases path with hsame | ⟨⟨number, hnew, -⟩, -⟩
    · exact h.keeps (hsame.symm.trans hsinkhole)
    · cases hnew.symm.trans hsinkhole
  · rcases hcases with ⟨rfl, -⟩ | ⟨old, hold, rfl⟩ | ⟨target, hlocate, -, rfl⟩
    · exact h.known number hnumber
    · rw [List.length_set]
      exact h.known number hnumber
    · -- The only file that was not known has the next number.
      obtain ⟨found, hfound, hfind, -⟩ := standing?_eq_some.1 hnumber
      rw [hopened.locate_eq_ok, hlocate] at hfound
      cases hfound
      have hnew :=
        (node?_put d (place_ne_nil target) (.file d.contents.length) _).trans (if_pos rfl)
      cases hnew.symm.trans (find?_eq_ok.1 hfind).2
      rw [List.length_append]
      exact Nat.lt_succ_self _
  · rintro _ ⟨⟩
    exact hstands
  · rintro number position ⟨⟩
    rw [content, hstands] at hempty
    rw [hstart number position rfl]
    exact (congrArg List.length hempty).symm

/-- A handle that stands at the end of its file still does after the file has taken bytes. -/
theorem Serves.receive {handle : Handle} (h : d.Serves path (some handle)) (bytes : List UInt8) :
    ((Disk.receive bytes (d, handle)).device.1.content path =
        d.content path ++ bytes.take (Disk.receive bytes (d, handle)).taken) ∧
      (Disk.receive bytes (d, handle)).device.1.Serves path
        (some (Disk.receive bytes (d, handle)).device.2) := by
  cases handle with
  | file number position =>
    have hstands := h.leads _ rfl
    have hknown := h.known number hstands
    have hend := h.atEnd number position rfl
    subst hend
    dsimp only [Disk.receive]
    refine ⟨?_, ⟨?_, fun other hother => ?_, ?_, ?_⟩⟩
    · rw [h.content_eq, content, standing?_contents, hstands, List.take_length]
      exact bytes_modify hknown bytes
    · exact h.keeps
    · rw [List.length_modify]
      exact h.known other hother
    · rintro _ ⟨⟩
      exact hstands
    · rintro _ _ ⟨⟩
      rw [bytes_modify hknown, List.length_append]
  | sinkhole => exact absurd (h.leads _ rfl) h.keeps
  | fullDevice =>
    refine ⟨?_, h⟩
    rw [Disk.receive, List.take_zero, List.append_nil]

/-- A file of a disk grows by what its writer writes, as long as only that writer opens its path. -/
theorem appends (path : String) :
    volume.Appends path (fun d => d.content path) (Serves path) where
  create_ok _ _ _ _ hserves hcreate :=
    ⟨(create_eq_ok hcreate).2.1, hserves.create hcreate⟩
  create_error d _ _ e hserves hcreate := by
    cases create_eq_error hcreate
    exact ⟨rfl, hserves.keeps, hserves.known, fun _ h => (nomatch h), fun _ _ h => (nomatch h)⟩
  receive bytes _ _ hserves := hserves.receive bytes
  taken bytes _ handle hserves hfault := by
    cases handle with
    | file | sinkhole => rfl
    | fullDevice => cases hfault

end Disk

end EventLog.Output
