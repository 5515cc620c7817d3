import Mathlib.Data.List.GetD
import EventLog.Output.Disk

/-!
# What opening files changes

Opening a path for writing empties the file that the path leads to, or makes one where nothing stands
(`create_cases`). Whatever paths are opened, folders stay, so that every path leads where it led
before, files that no opened path leads to keep their bytes, and the others have none (`Opened`). A
path that could be opened leads to a file or a device afterwards (`standsEmpty_openAll`).
-/

namespace EventLog.Output

/-- What an open file writes to. -/
def Handle.node : Handle → Node
  | .file number _ => .file number
  | .sinkhole => .sinkhole
  | .fullDevice => .fullDevice

theorem Handle.node_ne_folder (handle : Handle) : handle.node ≠ .folder := by
  cases handle <;> exact fun h => nomatch h

namespace Disk

/-! ## What a path leads to -/

/-- What stands where a path leads. A slash at its end asks for a folder. -/
def standing? (d : Disk) (path : String) : Option Node :=
  match d.locate path with
  | .ok (some target) =>
    match d.find? target with
    | .ok (some node) => if target.asFolder = true ∧ node ≠ .folder then none else some node
    | _ => none
  | _ => none

/-- The bytes of the file that a path leads to. -/
def content (d : Disk) (path : String) : List UInt8 :=
  match d.standing? path with
  | some (.file number) => d.bytes number
  | _ => []

/-- Two paths lead to one place or to one file. -/
def SameFile (d : Disk) (p q : String) : Prop :=
  (∃ source target, d.locate p = .ok (some source) ∧ d.locate q = .ok (some target) ∧
    source.place = target.place) ∨
  ∃ number, d.standing? p = some (.file number) ∧ d.standing? q = some (.file number)

/-- Opens files for writing, one after the other. -/
def openAll (paths : List String) (d : Disk) : Disk :=
  paths.foldl (fun d path => (d.create path).2) d

section

variable {d : Disk} {path : String} {target : Target} {node : Node}

theorem standing?_eq_some :
    d.standing? path = some node ↔
      ∃ target, d.locate path = .ok (some target) ∧ d.find? target = .ok (some node) ∧
        (target.asFolder = true → node = .folder) := by
  unfold standing?
  constructor
  · intro h
    split at h
    · next target hlocate =>
      split at h
      · next found hfind =>
        by_cases hslash : target.asFolder = true ∧ found ≠ .folder
        · rw [if_pos hslash] at h
          cases h
        · rw [if_neg hslash] at h
          cases h
          exact ⟨target, hlocate, hfind, fun hfolder =>
            Decidable.byContradiction fun hne => hslash ⟨hfolder, hne⟩⟩
      · cases h
    · cases h
  · rintro ⟨target, hlocate, hfind, hfolder⟩
    have hopen : ¬ (target.asFolder = true ∧ node ≠ .folder) := fun h => h.2 (hfolder h.1)
    simp only [hlocate, hfind, if_neg hopen]

theorem find?_eq_ok {found : Option Node} :
    d.find? target = .ok found ↔
      target.name.utf8ByteSize ≤ maxName ∧ d.node? target.place = found := by
  rw [find?, child?, Target.place]
  by_cases h : maxName < target.name.utf8ByteSize
  · simp [h, Nat.not_le_of_lt h]
  · simp [h, Nat.le_of_not_lt h]

/-- The text of a file is read from the bytes of the file that the path leads to. -/
theorem readText_eq (d : Disk) (path : String) :
    d.readText path =
      match d.standing? path with
      | some (.file _) => Text.ofUtf8? (d.content path)
      | some .sinkhole => some ""
      | _ => none := by
  unfold readText content standing?
  rcases d.locate path with fault | _ | target
  · rfl
  · rfl
  · dsimp only
    rcases d.find? target with fault | _ | _ | number | _ | _
    all_goals cases target.asFolder <;> simp

theorem place_ne_nil (target : Target) : target.place ≠ [] := by
  simp [Target.place]

theorem node?_put (d : Disk) {place : Place} (hplace : place ≠ []) (node : Node) (other : Place) :
    (d.put place node).node? other = if other = place then some node else d.node? other := by
  have hkept : ∀ nodes : List (Place × Node), other ≠ place →
      (nodes.filter (·.1 != place)).lookup other = nodes.lookup other := by
    intro nodes hne
    induction nodes with
    | nil => rfl
    | cons entry rest ih =>
      obtain ⟨key, value⟩ := entry
      by_cases hkey : key = place
      · have hother : (other == key) = false := by simp [hkey, hne]
        rw [List.filter_cons_of_neg (by simp [hkey]), List.lookup_cons, hother, ih]
      · rw [List.filter_cons_of_pos (by simp [hkey]), List.lookup_cons, List.lookup_cons, ih]
  by_cases h : other = place
  · subst h
    simp [node?, put, hplace]
  · have hother : (other == place) = false := by simp [h]
    rw [if_neg h, node?, node?, put, List.lookup_cons, hother, hkept d.nodes h]

end

/-! ## Opening one file -/

/-- A path that could not be opened leaves the disk as it was. -/
theorem create_eq_error {d e : Disk} {path : String} {fault : Fault}
    (h : d.create path = (.error fault, e)) : e = d := by
  unfold create at h
  split at h
  · cases h
    rfl
  · cases h
    rfl
  · split at h
    · cases h
      rfl
    · split at h <;> cases h <;> rfl

/-- Opening a path changes nothing, or empties the file it leads to, or makes one where nothing
stood. -/
theorem create_cases (path : String) (d : Disk) :
    ((d.create path).2 = d ∧ ∀ number, d.standing? path ≠ some (.file number)) ∨
    (∃ number, d.standing? path = some (.file number) ∧
      (d.create path).2 = { d with contents := d.contents.set number [] }) ∨
    ∃ target, d.locate path = .ok (some target) ∧ d.node? target.place = none ∧
      (d.create path).2 =
        { d.put target.place (.file d.contents.length) with contents := d.contents ++ [[]] } := by
  -- Where no file is emptied, the path does not lead to one without asking for a folder.
  have hnot : (∀ target number, d.locate path = .ok (some target) →
      d.find? target = .ok (some (.file number)) → target.asFolder = true) →
      ∀ number, d.standing? path ≠ some (.file number) := by
    intro hall number hstanding
    obtain ⟨target, hlocate, hfind, hfolder⟩ := standing?_eq_some.1 hstanding
    cases hfolder (hall target number hlocate hfind)
  unfold create
  cases hlocate : d.locate path with
  | error fault =>
    rw [hlocate] at hnot
    exact .inl ⟨rfl, hnot fun _ _ h => nomatch h⟩
  | ok found =>
    rw [hlocate] at hnot
    cases found with
    | none => exact .inl ⟨rfl, hnot fun _ _ h => nomatch h⟩
    | some target =>
      dsimp only
      cases hslash : target.asFolder with
      | true =>
        refine .inl ⟨rfl, hnot fun other number h _ => ?_⟩
        cases h
        exact hslash
      | false =>
        have hother : (∀ number, d.find? target ≠ .ok (some (.file number))) →
            ∀ number, d.standing? path ≠ some (.file number) := by
          refine fun hall => hnot fun other number h hfind => ?_
          cases h
          exact absurd hfind (hall number)
        rw [if_neg Bool.false_ne_true]
        rcases hfind : d.find? target with fault | _ | _ | number | _ | _
        · exact .inl ⟨rfl, hother fun number h => nomatch hfind.symm.trans h⟩
        · exact .inr (.inr ⟨target, rfl, (find?_eq_ok.1 hfind).2, rfl⟩)
        · exact .inl ⟨rfl, hother fun number h => nomatch hfind.symm.trans h⟩
        · refine .inr (.inl ⟨number, standing?_eq_some.2 ⟨target, hlocate, hfind, ?_⟩, rfl⟩)
          rw [hslash]
          exact fun h => nomatch h
        · exact .inl ⟨rfl, hother fun number h => nomatch hfind.symm.trans h⟩
        · exact .inl ⟨rfl, hother fun number h => nomatch hfind.symm.trans h⟩

/-! ## Opening several files -/

/-- A disk after some paths were opened on it. -/
structure Opened (paths : List String) (d e : Disk) : Prop where
  /-- New nodes are files with new numbers, where opened paths lead. -/
  node : ∀ place, e.node? place = d.node? place ∨
    d.node? place = none ∧ (∃ number, e.node? place = some (.file number) ∧
      d.contents.length ≤ number) ∧
      ∃ p ∈ paths, ∃ target, d.locate p = .ok (some target) ∧ target.place = place
  /-- A file that lost its bytes is one that an opened path leads to. -/
  bytes : ∀ number, e.bytes number = d.bytes number ∨
    e.bytes number = [] ∧ ∃ p ∈ paths, d.standing? p = some (.file number)
  length : d.contents.length ≤ e.contents.length

theorem bytes_of_length_le {d : Disk} {number : Nat} (h : d.contents.length ≤ number) :
    d.bytes number = [] := by
  rw [bytes, List.getD_eq_getElem?_getD, List.getElem?_eq_none h, Option.getD_none]

/-- Emptying a file changes the bytes of no other. -/
theorem bytes_emptied (d : Disk) (number other : Nat) :
    ({ d with contents := d.contents.set number [] } : Disk).bytes other =
      if other = number then [] else d.bytes other := by
  by_cases h : other = number
  · rw [if_pos h, bytes, List.getD_eq_getElem?_getD, h, List.getElem?_set_self']
    cases d.contents[number]? <;> rfl
  · rw [if_neg h, bytes, bytes, List.getD_eq_getElem?_getD, List.getElem?_set_ne (Ne.symm h),
      List.getD_eq_getElem?_getD]

/-- A new file without bytes changes the bytes of none. -/
theorem bytes_added (d : Disk) (number : Nat) :
    ({ d with contents := d.contents ++ [[]] } : Disk).bytes number = d.bytes number := by
  rcases Nat.lt_or_ge number d.contents.length with hlt | hge
  · rw [bytes, bytes, List.getD_append _ _ _ _ hlt]
  · rw [bytes_of_length_le hge, bytes, List.getD_append_right _ _ _ _ hge]
    cases number - d.contents.length <;> rfl

theorem opened_create (path : String) (d : Disk) : Opened [path] d (d.create path).2 := by
  rcases create_cases path d with ⟨heq, -⟩ | ⟨number, hstanding, heq⟩ | ⟨target, hlocate, hnone, heq⟩
  · rw [heq]
    exact ⟨fun _ => .inl rfl, fun _ => .inl rfl, Nat.le_refl _⟩
  · rw [heq]
    refine ⟨fun _ => .inl rfl, fun other => ?_, Nat.le_of_eq (List.length_set ..).symm⟩
    rw [bytes_emptied]
    by_cases h : other = number
    · exact .inr ⟨if_pos h, path, List.mem_singleton_self path, h ▸ hstanding⟩
    · exact .inl (if_neg h)
  · rw [heq]
    refine ⟨fun place => ?_, fun number => .inl (bytes_added d number), ?_⟩
    · have hput : ({ d.put target.place (.file d.contents.length) with
            contents := d.contents ++ [[]] } : Disk).node? place =
          if place = target.place then some (.file d.contents.length) else d.node? place :=
        node?_put d (place_ne_nil target) _ place
      rw [hput]
      by_cases h : place = target.place
      · subst h
        exact .inr ⟨hnone, ⟨_, if_pos rfl, Nat.le_refl _⟩, path, List.mem_singleton_self path,
          target, hlocate, rfl⟩
      · exact .inl (if_neg h)
    · rw [List.length_append]
      exact Nat.le_add_right _ _

theorem bind_eq_ok {α β : Type} {x : Except Fault α} {next : α → Except Fault β} {value : β} :
    x >>= next = .ok value ↔ ∃ a, x = .ok a ∧ next a = .ok value := by
  cases x with
  | error fault =>
    constructor
    · exact fun h => nomatch h
    · rintro ⟨_, h, -⟩
      cases h
  | ok a =>
    constructor
    · exact fun h => ⟨a, rfl, h⟩
    · rintro ⟨_, h, hnext⟩
      cases h
      exact hnext

namespace Opened

variable {paths more : List String} {d e f : Disk}

/-- A step on the way goes where it went, since folders stay. -/
theorem step_eq_ok (h : Opened paths d e) (here : Place) (name : String) (place : Place) :
    e.step here name = .ok place ↔ d.step here name = .ok place := by
  unfold step child?
  rcases h.node (here ++ [name]) with hsame | ⟨hnone, ⟨number, hnew, -⟩, -⟩
  · rw [hsame]
  · -- Neither a missing node nor a file lets a walk go on.
    rw [hnone, hnew]
    split
    · rfl
    · split
      · rfl
      · split
        · rfl
        · exact ⟨fun h => (nomatch h), fun h => (nomatch h)⟩

theorem walk_eq_ok (h : Opened paths d e) (names : List String) (here place : Place) :
    names.foldlM e.step here = .ok place ↔ names.foldlM d.step here = .ok place := by
  induction names generalizing here with
  | nil => rfl
  | cons name rest ih =>
    rw [List.foldlM_cons, List.foldlM_cons, bind_eq_ok, bind_eq_ok]
    simp only [h.step_eq_ok, ih]

/-- Every path leads where it led. -/
theorem locate_eq_ok (h : Opened paths d e) (path : String) (found : Option Target) :
    e.locate path = .ok found ↔ d.locate path = .ok found := by
  unfold locate
  dsimp only
  split
  · rfl
  · split
    · rfl
    · split
      · rfl
      · split
        · rfl
        · simp only [bind_eq_ok, h.walk_eq_ok]

/-- What stands somewhere stays there. -/
theorem standing?_eq_some (h : Opened paths d e) {path : String} {node : Node}
    (hstands : d.standing? path = some node) : e.standing? path = some node := by
  obtain ⟨target, hlocate, hfind, hfolder⟩ := Disk.standing?_eq_some.1 hstands
  obtain ⟨hshort, hnode⟩ := find?_eq_ok.1 hfind
  have hkept : e.node? target.place = some node := by
    rcases h.node target.place with hsame | ⟨hnone, -⟩
    · exact hsame.trans hnode
    · cases hnode.symm.trans hnone
  exact Disk.standing?_eq_some.2 ⟨target, (h.locate_eq_ok path _).2 hlocate,
    find?_eq_ok.2 ⟨hshort, hkept⟩, hfolder⟩

/-- Where a path leads stands what stood there, or a new file that was made for an opened path. -/
theorem standing?_cases (h : Opened paths d e) (path : String) :
    e.standing? path = d.standing? path ∨
      (∃ number, e.standing? path = some (.file number) ∧ d.contents.length ≤ number) ∧
        ∃ p ∈ paths, d.SameFile p path := by
  cases hstands : e.standing? path with
  | none =>
    refine .inl (Eq.symm ?_)
    cases hold : d.standing? path with
    | none => rfl
    | some node => cases hstands.symm.trans (h.standing?_eq_some hold)
  | some node =>
    obtain ⟨target, hlocate, hfind, hfolder⟩ := Disk.standing?_eq_some.1 hstands
    obtain ⟨hshort, hnode⟩ := find?_eq_ok.1 hfind
    rw [h.locate_eq_ok] at hlocate
    rcases h.node target.place with hsame | ⟨-, ⟨number, hnew, hle⟩, p, hp, source, hsource, hplace⟩
    · refine .inl (Eq.symm (Disk.standing?_eq_some.2 ⟨target, hlocate, ?_, hfolder⟩))
      exact find?_eq_ok.2 ⟨hshort, hsame.symm.trans hnode⟩
    · cases hnew.symm.trans hnode
      exact .inr ⟨⟨number, rfl, hle⟩, p, hp, .inl ⟨source, target, hsource, hlocate, hplace⟩⟩

theorem trans (h : Opened paths d e) (h' : Opened more e f) : Opened (paths ++ more) d f where
  node place := by
    rcases h.node place with hsame | ⟨hnone, ⟨number, hnew, hle⟩, p, hp, hleads⟩
    · rcases h'.node place with hsame' | ⟨hnone, ⟨number, hnew, hle⟩, p, hp, target, hlocate, hplace⟩
      · exact .inl (hsame'.trans hsame)
      · exact .inr ⟨hsame ▸ hnone, ⟨number, hnew, Nat.le_trans h.length hle⟩, p,
          List.mem_append_right _ hp, target, (h.locate_eq_ok p _).1 hlocate, hplace⟩
    · rcases h'.node place with hsame' | ⟨hnone', -⟩
      · exact .inr ⟨hnone, ⟨number, hsame'.trans hnew, hle⟩, p, List.mem_append_left _ hp, hleads⟩
      · cases hnew.symm.trans hnone'
  bytes number := by
    rcases h'.bytes number with hsame' | ⟨hempty, p, hp, hstands⟩
    · rcases h.bytes number with hsame | ⟨hempty, p, hp, hstands⟩
      · exact .inl (hsame'.trans hsame)
      · exact .inr ⟨hsame'.trans hempty, p, List.mem_append_left _ hp, hstands⟩
    · rcases h.standing?_cases p with hsame | ⟨⟨other, hnew, hle⟩, -⟩
      · exact .inr ⟨hempty, p, List.mem_append_right _ hp, hsame.symm.trans hstands⟩
      · -- A file that was made in between had no bytes to lose.
        cases hnew.symm.trans hstands
        exact .inl (hempty.trans (bytes_of_length_le hle).symm)
  length := Nat.le_trans h.length h'.length

/-- A path that leads to no opened file leads to what it did, with the same bytes. -/
theorem content_eq (h : Opened paths d e) {path : String}
    (hother : ∀ p ∈ paths, ¬ d.SameFile p path) :
    e.standing? path = d.standing? path ∧ e.content path = d.content path := by
  rcases h.standing?_cases path with hsame | ⟨-, p, hp, hfile⟩
  · refine ⟨hsame, ?_⟩
    rw [content, content, hsame]
    split
    · next number hstands =>
      rcases h.bytes number with hbytes | ⟨-, p, hp, hopened⟩
      · exact hbytes
      · exact absurd (.inr ⟨number, hopened, hstands⟩) (hother p hp)
    · rfl
  · exact absurd hfile (hother p hp)

/-- Where no bytes were there are none. -/
theorem content_eq_nil (h : Opened paths d e) {path : String} (hempty : d.content path = []) :
    e.content path = [] := by
  have hbytes : ∀ number, d.bytes number = [] → e.bytes number = [] := by
    intro number hnone
    rcases h.bytes number with hsame | ⟨hnone', -⟩
    · exact hsame.trans hnone
    · exact hnone'
  unfold content at hempty ⊢
  rcases h.standing?_cases path with hsame | ⟨⟨number, hnew, hle⟩, -⟩
  · rw [hsame]
    split
    · next number hstands =>
      rw [hstands] at hempty
      exact hbytes number hempty
    · rfl
  · rw [hnew]
    exact hbytes number (bytes_of_length_le hle)

end Opened

theorem openAll_append (paths more : List String) (d : Disk) :
    d.openAll (paths ++ more) = (d.openAll paths).openAll more :=
  List.foldl_append

theorem opened_openAll (paths : List String) (d : Disk) : Opened paths d (d.openAll paths) := by
  induction paths generalizing d with
  | nil => exact ⟨fun _ => .inl rfl, fun _ => .inl rfl, Nat.le_refl _⟩
  | cons path rest ih => exact (opened_create path d).trans (ih (d.create path).2)

/-- A file that was just opened has no bytes. -/
theorem content_create (path : String) (d : Disk) : (d.create path).2.content path = [] := by
  have hopened := opened_create path d
  unfold content
  split
  · next number hstands =>
    rcases create_cases path d with ⟨heq, hnot⟩ | ⟨old, hold, heq⟩ | ⟨target, hlocate, hnone, heq⟩
    · rw [heq] at hstands
      exact absurd hstands (hnot number)
    · cases (hopened.standing?_eq_some hold).symm.trans hstands
      rw [heq, bytes_emptied, if_pos rfl]
    · have hbytes : (d.create path).2.bytes number = d.bytes number := by
        rw [heq]
        exact bytes_added d number
      rcases hopened.standing?_cases path with hsame | ⟨⟨other, hnew, hle⟩, -⟩
      · obtain ⟨other, hlocate', hfind, -⟩ := standing?_eq_some.1 (hsame.symm.trans hstands)
        cases hlocate.symm.trans hlocate'
        cases hnone.symm.trans (find?_eq_ok.1 hfind).2
      · cases hnew.symm.trans hstands
        rw [hbytes, bytes_of_length_le hle]
  · rfl

/-- Files that were opened one after the other have no bytes. -/
theorem content_openAll {paths : List String} {path : String} (hpath : path ∈ paths) (d : Disk) :
    (d.openAll paths).content path = [] := by
  induction paths generalizing d with
  | nil => exact absurd hpath List.not_mem_nil
  | cons first rest ih =>
    rcases List.mem_cons.1 hpath with rfl | hrest
    · exact (opened_openAll rest _).content_eq_nil (content_create path d)
    · exact ih hrest (d.create first).2

/-! ## Paths that can be opened -/

/-- A path can be opened for writing. -/
def Opens (d : Disk) (path : String) : Prop := (d.create path).1.isOk = true

instance (d : Disk) (path : String) : Decidable (d.Opens path) :=
  inferInstanceAs (Decidable ((d.create path).1.isOk = true))

/-- A path can be opened unless it asks for a folder or leads to one. -/
theorem opens_iff {d : Disk} {path : String} :
    d.Opens path ↔ ∃ target node, d.locate path = .ok (some target) ∧ target.asFolder = false ∧
      d.find? target = .ok node ∧ node ≠ some .folder := by
  unfold Opens create
  rcases d.locate path with fault | _ | target
  · simp [Except.isOk, Except.toBool]
  · simp [Except.isOk, Except.toBool]
  · cases hslash : target.asFolder
    · rcases hfind : d.find? target with fault | _ | _ | number | _ | _ <;>
        simp [Except.isOk, Except.toBool, hslash, hfind]
    · simp [Except.isOk, Except.toBool, hslash]

/-- Opening other paths first keeps none from being opened. -/
theorem Opened.opens {paths : List String} {d e : Disk} (h : Opened paths d e) {path : String}
    (hopens : d.Opens path) : e.Opens path := by
  obtain ⟨target, node, hlocate, hslash, hfind, hnode⟩ := opens_iff.1 hopens
  obtain ⟨hshort, hstands⟩ := find?_eq_ok.1 hfind
  refine opens_iff.2 ⟨target, e.node? target.place, (h.locate_eq_ok path _).2 hlocate, hslash,
    find?_eq_ok.2 ⟨hshort, rfl⟩, ?_⟩
  rcases h.node target.place with hsame | ⟨-, ⟨number, hnew, -⟩, -⟩
  · rw [hsame, hstands]
    exact hnode
  · rw [hnew]
    exact fun heq => nomatch heq

/-- Opening other paths first lets none be opened that could not be. -/
theorem Opened.of_opens {paths : List String} {d e : Disk} (h : Opened paths d e) {path : String}
    (hopens : e.Opens path) : d.Opens path := by
  obtain ⟨target, node, hlocate, hslash, hfind, hnode⟩ := opens_iff.1 hopens
  obtain ⟨hshort, hstands⟩ := find?_eq_ok.1 hfind
  refine opens_iff.2 ⟨target, d.node? target.place, (h.locate_eq_ok path _).1 hlocate, hslash,
    find?_eq_ok.2 ⟨hshort, rfl⟩, ?_⟩
  rcases h.node target.place with hsame | ⟨hnone, -⟩
  · rw [← hsame, hstands]
    exact hnode
  · rw [hnone]
    exact fun heq => nomatch heq

/-- A path leads to a file without bytes, or to a device. -/
structure StandsEmpty (d : Disk) (path : String) : Prop where
  stands : ∃ node, d.standing? path = some node ∧ node ≠ .folder
  empty : d.content path = []

/-- A path that was opened leads to what the open file writes to, which has no bytes, and writing
starts there. -/
theorem create_eq_ok {d e : Disk} {path : String} {handle : Handle}
    (h : d.create path = (.ok handle, e)) :
    e.standing? path = some handle.node ∧ e.content path = [] ∧
      ∀ number position, handle = .file number position → position = 0 := by
  have hopened := opened_create path d
  have hempty := content_create path d
  rw [h] at hopened hempty
  unfold create at h
  rcases hlocate : d.locate path with fault | _ | target
  · simp [hlocate] at h
  · simp [hlocate] at h
  · cases hslash : target.asFolder with
    | true => simp [hlocate, hslash] at h
    | false =>
      have hstands : ∀ node, d.find? target = .ok (some node) → e.standing? path = some node :=
        fun node hfind => hopened.standing?_eq_some <|
          standing?_eq_some.2 ⟨target, hlocate, hfind, by rw [hslash]; exact fun h => nomatch h⟩
      simp only [hlocate, hslash, Bool.false_eq_true, if_false] at h
      rcases hfind : d.find? target with fault | _ | _ | number | _ | _
      · simp [hfind] at h
      · simp only [hfind, Prod.mk.injEq, Except.ok.injEq] at h
        obtain ⟨rfl, rfl⟩ := h
        refine ⟨standing?_eq_some.2 ⟨target, (hopened.locate_eq_ok path _).2 hlocate, ?_, ?_⟩, hempty,
          ?_⟩
        · exact find?_eq_ok.2 ⟨(find?_eq_ok.1 hfind).1,
            (node?_put d (place_ne_nil target) _ _).trans (if_pos rfl)⟩
        · rw [hslash]
          exact fun h => nomatch h
        · rintro _ _ ⟨⟩
          rfl
      · simp [hfind] at h
      · simp only [hfind, Prod.mk.injEq, Except.ok.injEq] at h
        obtain ⟨rfl, rfl⟩ := h
        refine ⟨hstands _ hfind, hempty, ?_⟩
        rintro _ _ ⟨⟩
        rfl
      · simp only [hfind, Prod.mk.injEq, Except.ok.injEq] at h
        obtain ⟨rfl, rfl⟩ := h
        exact ⟨hstands _ hfind, hempty, fun _ _ h => nomatch h⟩
      · simp only [hfind, Prod.mk.injEq, Except.ok.injEq] at h
        obtain ⟨rfl, rfl⟩ := h
        exact ⟨hstands _ hfind, hempty, fun _ _ h => nomatch h⟩

/-- Where several paths were opened, each that could be leads to a file without bytes or a device. -/
theorem standsEmpty_openAll {paths : List String} {d : Disk} {path : String} (hpath : path ∈ paths)
    (hopens : d.Opens path) : (d.openAll paths).StandsEmpty path := by
  refine ⟨?_, content_openAll hpath d⟩
  induction paths generalizing d with
  | nil => exact absurd hpath List.not_mem_nil
  | cons first rest ih =>
    rcases List.mem_cons.1 hpath with rfl | hrest
    · obtain ⟨handle, hcreate⟩ : ∃ handle, d.create path = (.ok handle, (d.create path).2) := by
        unfold Opens at hopens
        rcases h : d.create path with ⟨fault | handle, e⟩
        · rw [h] at hopens
          cases hopens
        · exact ⟨handle, rfl⟩
      exact ⟨handle.node, (opened_openAll rest _).standing?_eq_some (create_eq_ok hcreate).1,
        handle.node_ne_folder⟩
    · exact ih hrest ((opened_create first d).opens hopens)

end Disk

end EventLog.Output
