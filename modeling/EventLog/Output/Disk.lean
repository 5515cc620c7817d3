import EventLog.Output.Buffer
import EventLog.Text.Utf8

/-!
# The file tree

A disk maps places to folders, files and devices. A file is known by a number, and its bytes are
kept under the number: a file that is removed or renamed while it is open goes on being written,
out of sight or under its new name. An open file writes at a position of its own, so two writers of
one file do not see each other's progress; a gap that a writer leaves reads as zero bytes.

Relative paths start in the working folder. A path is walked name by name: each name on the way must
be a folder.
-/

namespace EventLog.Output

/-- The names that lead to a place, from the root. -/
abbrev Place := List String

/-- What stands at a place. -/
inductive Node where
  | folder
  | file (number : Nat)
  /-- A device that takes everything and keeps nothing. -/
  | sinkhole
  /-- A device that has no space. -/
  | fullDevice
  deriving DecidableEq

/-- The file tree and the bytes of the files by number. -/
structure Disk where
  nodes : List (Place × Node)
  contents : List (List UInt8) := []

/-- An open file: where the next byte goes. -/
inductive Handle where
  | file (number position : Nat)
  | sinkhole
  | fullDevice
  deriving DecidableEq

namespace Disk

/-- The folder in which relative paths start. -/
def workingFolder : Place := ["tmp", "work"]

/-- The folders that stand at the root of every disk. -/
def rootFolders : List String :=
  ["bin", "dev", "etc", "home", "lib", "proc", "root", "sys", "tmp", "usr", "var"]

/-- The standard devices. -/
def devices : List (String × Node) :=
  [("full", .fullDevice), ("null", .sinkhole), ("zero", .sinkhole)]

/-- A disk with the standard folders and devices and an empty working folder. -/
def empty : Disk where
  nodes :=
    rootFolders.map (fun name => ([name], .folder))
      ++ devices.map (fun (name, node) => (["dev", name], node)) ++ [(workingFolder, .folder)]

/-- What stands at a place; the root is a folder. -/
def node? (d : Disk) (place : Place) : Option Node :=
  if place = [] then some .folder else d.nodes.lookup place

/-- Puts a node at a place, instead of what stood there. -/
def put (d : Disk) (place : Place) (node : Node) : Disk :=
  { d with nodes := (place, node) :: d.nodes.filter (·.1 != place) }

/-- Takes away what stands at a place. -/
def erase (d : Disk) (place : Place) : Disk :=
  { d with nodes := d.nodes.filter (·.1 != place) }

/-- The bytes of a file. -/
def bytes (d : Disk) (number : Nat) : List UInt8 := d.contents.getD number []

/-- The bytes longest allowed in one name of a path. -/
def maxName : Nat := 255

/-- The bytes longest allowed in a whole path. -/
def maxPath : Nat := 4095

/-- What stands under a name in a folder. -/
def child? (d : Disk) (parent : Place) (name : String) : Except Fault (Option Node) :=
  if maxName < name.utf8ByteSize then .error .nameTooLong else .ok (d.node? (parent ++ [name]))

/-- Takes one step on the way: the place, which has to be a folder to walk on. -/
def step (d : Disk) (here : Place) (name : String) : Except Fault Place := do
  if name = ".." then return here.dropLast
  if name = "." then return here
  match ← d.child? here name with
  | some .folder => return here ++ [name]
  | some _ => throw .notAFolder
  | none => throw .notFound

/-- Where a path ends: the folder that holds its last name, the name, and whether a slash after it
demands a folder. -/
structure Target where
  parent : Place
  name : String
  asFolder : Bool

/-- The place of a target. -/
def Target.place (t : Target) : Place := t.parent ++ [t.name]

/-- What stands at a target. -/
def find? (d : Disk) (t : Target) : Except Fault (Option Node) := d.child? t.parent t.name

/-- Whether a path starts at the root. -/
def isAbsolute (path : String) : Bool := path.startsWith "/"

/-- Where a path starts. -/
def start (path : String) : Place := if isAbsolute path then [] else workingFolder

/-- The names of a path. -/
def names (path : String) : List String :=
  ((path.toList.splitOn '/').map String.ofList).filter (· ≠ "")

/-- Whether a path holds the character that ends paths. -/
def holdsNul (path : String) : Bool := path.toList.contains '\x00'

/-- What a path names, or the fault on the way. The target is none for a path that can only name a
folder that stands (`.`, `..`, the root). -/
def locate (d : Disk) (path : String) : Except Fault (Option Target) := do
  if holdsNul path then throw .nulInPath
  if path = "" then throw .notFound
  if maxPath < path.utf8ByteSize then throw .nameTooLong
  match (names path).getLast? with
  | none => return none
  | some last =>
    let parent ← (names path).dropLast.foldlM d.step (start path)
    if last = "." ∨ last = ".." then return none
    return some { parent, name := last, asFolder := path.endsWith "/" }

/-- Opens a file for writing from its start: an existing file loses its bytes, a missing one is
made. A slash at the end asks for a folder, whatever stands there. -/
def create (path : String) (d : Disk) : Except Fault Handle × Disk :=
  match d.locate path with
  | .error fault => (.error fault, d)
  | .ok none => (.error .isAFolder, d)
  | .ok (some target) =>
    if target.asFolder then (.error .isAFolder, d)
    else
      match d.find? target with
      | .error fault => (.error fault, d)
      | .ok (some .folder) => (.error .isAFolder, d)
      | .ok (some (.file number)) =>
        (.ok (.file number 0), { d with contents := d.contents.set number [] })
      | .ok (some .sinkhole) => (.ok .sinkhole, d)
      | .ok (some .fullDevice) => (.ok .fullDevice, d)
      | .ok none =>
        let number := d.contents.length
        (.ok (.file number 0),
         { d.put target.place (.file number) with contents := d.contents ++ [[]] })

/-- Bytes with others written over them from a position on; zeros fill a gap. -/
def overwrite (old : List UInt8) (position : Nat) (new : List UInt8) : List UInt8 :=
  old.take position ++ List.replicate (position - old.length) 0 ++ new
    ++ old.drop (position + new.length)

/-- An open file takes all bytes, unless it is a device without space. -/
def receive : Receiver (Disk × Handle) := fun new (d, handle) =>
  match handle with
  | .file number position =>
    ⟨({ d with contents := d.contents.modify number (overwrite · position new) },
      .file number (position + new.length)), new.length, none⟩
  | .sinkhole => ⟨(d, handle), new.length, none⟩
  | .fullDevice => ⟨(d, handle), 0, some .deviceFull⟩

/-- The text of a file, if the path names one and its bytes are text. -/
def readText (d : Disk) (path : String) : Option String :=
  match d.locate path with
  | .ok (some target) =>
    match d.find? target, target.asFolder with
    | .ok (some (.file number)), false => Text.ofUtf8? (d.bytes number)
    | .ok (some .sinkhole), false => some ""
    | _, _ => none
  | _ => none

/-- Replaces the text of a file. -/
def writeText (path text : String) (d : Disk) : Except Fault Unit × Disk :=
  match d.create path with
  | (.error fault, d) => (.error fault, d)
  | (.ok handle, d) =>
    let intake := receive (Text.utf8 text) (d, handle)
    match intake.fault with
    | none => (.ok (), intake.device.1)
    | some fault => (if text = "" then .ok () else .error fault, intake.device.1)

/-- Whether a place lies inside a folder, or is the folder. -/
def within (folder place : Place) : Bool := folder.isPrefixOf place

/-- Whether something stands inside a folder. -/
def occupied (d : Disk) (folder : Place) : Bool :=
  d.nodes.any fun (place, _) => within folder place && place != folder

/-- Removes a file. -/
def removeFile (path : String) (d : Disk) : Except Fault Unit × Disk :=
  match d.locate path with
  | .error fault => (.error fault, d)
  | .ok none => (.error .isAFolder, d)
  | .ok (some target) =>
    match d.find? target with
    | .error fault => (.error fault, d)
    | .ok none => (.error .notFound, d)
    | .ok (some .folder) => (.error .isAFolder, d)
    | .ok (some _) =>
      if target.asFolder then (.error .notAFolder, d) else (.ok (), d.erase target.place)

/-- Whether a path names a folder. -/
def isFolder (d : Disk) (path : String) : Bool :=
  match d.locate path with
  | .error _ => false
  | .ok none => true
  | .ok (some target) => d.node? target.place = some .folder

/-- Makes one folder in a folder that stands. -/
def makeLast (path : String) (d : Disk) : Except Fault Unit × Disk :=
  match d.locate path with
  | .error fault => (.error fault, d)
  | .ok none => (.error .alreadyExists, d)
  | .ok (some target) =>
    match d.find? target with
    | .error fault => (.error fault, d)
    | .ok none => (.ok (), d.put target.place .folder)
    | .ok (some _) => (.error .alreadyExists, d)

/-- The paths that lead to a path, the longest first. -/
def ancestors (path : String) : List String :=
  let names := (names path).filter (· ≠ ".")
  (List.range (names.length - 1)).reverse.map fun (n : Nat) =>
    (if isAbsolute path then "/" else "") ++ "/".intercalate (names.take (n + 1))

/-- Makes the first folder of a list of paths, after those that follow if one of them is missing.
What has been made stays, also when a later folder cannot be made. -/
def makeAlong : List String → Disk → Except Fault Unit × Disk
  | [], d => (.ok (), d)
  | path :: shorter, d =>
    let forgive : Except Fault Unit × Disk → Except Fault Unit × Disk
      | (.ok (), d) => (.ok (), d)
      | (.error fault, d) => (if d.isFolder path then .ok () else .error fault, d)
    match d.makeLast path with
    | (.ok (), d) => (.ok (), d)
    | (.error fault, d) =>
      if fault = .notFound then
        match makeAlong shorter d with
        | (.ok (), d) => forgive (d.makeLast path)
        | (.error fault, d) => (.error fault, d)
      else forgive (.error fault, d)

/-- Makes a folder, and those on the way to it that are missing. -/
def makeFolder (path : String) (d : Disk) : Except Fault Unit × Disk :=
  if path = "" then (.ok (), d) else makeAlong (path :: ancestors path) d

/-- Takes away everything inside a folder. -/
def clear (d : Disk) (folder : Place) : Disk :=
  { d with nodes := d.nodes.filter fun (place, _) => !(within folder place && place != folder) }

/-- Removes a folder and everything in it. A path that ends in `.` or `..` names a folder that can
be emptied but not removed, unless the way to it goes through the folder itself. -/
def removeFolder (path : String) (d : Disk) : Except Fault Unit × Disk :=
  match d.locate path with
  | .error fault => (.error fault, d)
  | .ok none =>
    match (names path).foldlM d.step (start path) with
    | .error fault => (.error fault, d)
    | .ok [] => (.error .busy, d)
    | .ok folder =>
      let d := d.clear folder
      if !d.isFolder path then (.ok (), d)
      else if (names path).getLast? = some "." then (.error .invalidArgument, d)
      else (.error .folderNotEmpty, d)
  | .ok (some target) =>
    match d.find? target with
    | .error fault => (.error fault, d)
    | .ok none => (.error .notFound, d)
    | .ok (some .folder) => (.ok (), (d.clear target.place).erase target.place)
    | .ok (some _) => (.error .notAFolder, d)

/-- Moves everything at and below one place to another. -/
def move (d : Disk) (source target : Place) : Disk :=
  { d with
    nodes := (d.nodes.filter (·.1 != target)).map fun (place, node) =>
      if within source place then (target ++ place.drop source.length, node) else (place, node) }

/-- Whether two places lie on different volumes; the devices have one of their own. -/
def onDifferentVolumes (p q : Place) : Bool := within ["dev"] p != within ["dev"] q

/-- Moves what stands at a target to another target: a folder only to a new name or to an empty
folder, anything else only to a new name or over something that is no folder either. -/
def moveTo (source target : Target) (node : Node) (old : Option Node) (d : Disk) :
    Except Fault Unit × Disk :=
  if node ≠ .folder ∧ (source.asFolder ∨ target.asFolder) then (.error .notAFolder, d)
  else if node = .folder ∧ within source.place target.parent then (.error .invalidArgument, d)
  else if within target.place source.parent then (.error .folderNotEmpty, d)
  else if source.place = target.place then (.ok (), d)
  else
    match decide (node = .folder), old with
    | true, some .folder =>
      if d.occupied target.place then (.error .folderNotEmpty, d)
      else (.ok (), d.move source.place target.place)
    | true, some _ => (.error .notAFolder, d)
    | false, some .folder => (.error .isAFolder, d)
    | _, _ => (.ok (), d.move source.place target.place)

/-- Renames a file or a folder; a file that has the new name is replaced. -/
def rename (path newPath : String) (d : Disk) : Except Fault Unit × Disk :=
  let plan : Except Fault (Except Fault Unit × Disk) := do
    if holdsNul path ∨ holdsNul newPath then throw .nulInPath
    let source ← d.locate path
    let target ← d.locate newPath
    match source, target with
    | some source, some target =>
      if onDifferentVolumes source.parent target.parent then throw .otherVolume
      match ← d.find? source with
      | none => throw .notFound
      | some node => return d.moveTo source target node (← d.find? target)
    | _, _ => throw .busy
  match plan with
  | .ok result => result
  | .error fault => (.error fault, d)

/-- The entries of the working folder, at all depths, with the numbers of the files. -/
def entries (d : Disk) : List (String × Node) :=
  d.nodes.filterMap fun (place, node) =>
    if within workingFolder place && place != workingFolder then
      some ("/".intercalate (place.drop workingFolder.length), node)
    else none

end Disk

end EventLog.Output
