import Taskboard.Disk.Path
import Taskboard.Text.Quoted
import Taskboard.Text.Utf8

/-!
# A disk of files and folders

The tree of files and folders that programs see, as a value. Operations take paths, follow them from
the working folder name by name, and either change the tree or say in which of seven ways they
fail. Names have at most 255 bytes and paths at most 4095, and no null character stands in them.

A save is a short list of steps. Carrying out a list of steps stops at the first failure; what an
interrupted save leaves behind is the tree after some prefix of its steps, and possibly a part of the
step after them.
-/

namespace Taskboard

/-- Place of a file or folder: the names from the working folder. The names `..` and `/` lead out of
the working folder, to folders that always exist. -/
abbrev Location := List Text

/-- What stands at a place. -/
inductive Node where
  | folder
  | file (bytes : List UInt8)
deriving DecidableEq, Inhabited

/-- How an operation on the disk fails. -/
inductive DiskFailure where
  | notFound
  | alreadyExists
  | notFolder
  | isFolder
  | invalidName
  | nameTooLong
  | nullCharacter
  | unencodable (fault : Utf8.EncodeFault)
deriving DecidableEq, Inhabited

namespace DiskFailure

/-- Number of a failure; a path with a null character or a surrogate fails before there is one. -/
def code? : DiskFailure → Option Nat
  | .notFound => some 2
  | .alreadyExists => some 17
  | .notFolder => some 20
  | .isFolder => some 21
  | .invalidName => some 22
  | .nameTooLong => some 36
  | .nullCharacter | .unencodable _ => none

/-- Wording of a failure. -/
def wording : DiskFailure → Text
  | .notFound => "No such file or directory"
  | .alreadyExists => "File exists"
  | .notFolder => "Not a directory"
  | .isFolder => "Is a directory"
  | .invalidName => "Invalid argument"
  | .nameTooLong => "File name too long"
  | .nullCharacter => "embedded null byte"
  | .unencodable fault => fault.message

end DiskFailure

/-- A failed operation on the disk. -/
structure DiskFault where
  /-- How it failed. -/
  failure : DiskFailure
  /-- The path it failed on. -/
  path : Path
  /-- The second path, if the operation has two. -/
  target : Option Path
deriving DecidableEq, Inhabited

/-- Wording of a failed operation. -/
def DiskFault.message (fault : DiskFault) : Text :=
  let paths :=
    match fault.target with
    | none => Text.quoted fault.path.text
    | some target => Text.quoted fault.path.text ++ " -> " ++ Text.quoted target.text
  match fault.failure.code? with
  | none => fault.failure.wording
  | some code => "[Errno " ++ toString code ++ "] " ++ fault.failure.wording ++ ": " ++ paths

/-- Files and folders by place; the latest entry for a place counts. -/
structure Disk where
  /-- Places with what stands there. -/
  nodes : List (Location × Node)
deriving Inhabited

namespace Disk

/-- A disk with an empty working folder. -/
def empty : Disk := ⟨[]⟩

/-- Whether a place lies outside the working folder, or is the working folder itself. -/
def isBase (place : Location) : Bool := place.all fun name => name = ".." || name = "/"

/-- What the entries say about a place. -/
def entryAt (place : Location) : List (Location × Node) → Option Node
  | [] => none
  | (p, node) :: rest => if p = place then some node else entryAt place rest

/-- What stands at a place. -/
def node? (disk : Disk) (place : Location) : Option Node :=
  if isBase place then some .folder else entryAt place disk.nodes

/-- Whether a folder stands at a place. -/
def hasFolder (disk : Disk) (place : Location) : Bool := disk.node? place = some .folder

/-- The disk without what stands at exactly this place. -/
def erase (disk : Disk) (place : Location) : Disk := ⟨disk.nodes.filter fun entry => entry.1 ≠ place⟩

/-- The disk with a node at a place, instead of what stood there. -/
def put (disk : Disk) (place : Location) (node : Node) : Disk :=
  ⟨(place, node) :: (disk.erase place).nodes⟩

/-- The disk without what stands below a place. -/
def clear (disk : Disk) (place : Location) : Disk :=
  ⟨disk.nodes.filter fun entry => entry.1 = place || !place.isPrefixOf entry.1⟩

/-- Greatest number of bytes of a name. -/
def longestName : Nat := 255

/-- Greatest number of bytes of a path. -/
def longestPath : Nat := 4095

/-- The folder that contains a place. -/
def above (place : Location) : Location :=
  match place.getLast? with
  | none => [".."]
  | some name =>
    if name = ".." then place ++ ([".."] : Location)
    else if name = "/" then place
    else place.dropLast

/-- The place of a name in a folder. -/
def step (place : Location) (name : Text) : Except DiskFailure Location :=
  if name = ".." then .ok (above place)
  else if longestName < Utf8.size name then .error .nameTooLong
  else .ok (place ++ [name])

/-- Goes down through folders. -/
def descend (disk : Disk) : Location → List Text → Except DiskFailure Location
  | place, [] => .ok place
  | place, name :: rest =>
    match step place name with
    | .error failure => .error failure
    | .ok next =>
      match disk.node? next with
      | none => .error .notFound
      | some (.file _) => .error .notFolder
      | some .folder => disk.descend next rest

/-- Place at which the names of a path start. -/
def basePlace : PathRoot → Location
  | .here => []
  | _ => ["/"]

/-- Why a path is refused before it is followed: it has no bytes, or has a null character, or is too long. -/
def refusal? (path : Path) : Option DiskFailure :=
  match Utf8.nameFault? path.text with
  | some fault => some (.unencodable fault)
  | none =>
    if path.names.any fun name => name.toList.contains (CodePoint.ofNat 0) then some .nullCharacter
    else if longestPath < Utf8.size path.text then some .nameTooLong
    else none

/-- The place of a path; every name but the last has to lead to a folder. -/
def locate (disk : Disk) (path : Path) : Except DiskFailure Location :=
  match refusal? path with
  | some failure => .error failure
  | none =>
    match path.names.getLast? with
    | none => .ok (basePlace path.root)
    | some name =>
      match disk.descend (basePlace path.root) path.names.dropLast with
      | .error failure => .error failure
      | .ok folder => step folder name

/-- Bytes of the file at a path. -/
def read (disk : Disk) (path : Path) : Except DiskFailure (List UInt8) :=
  match disk.locate path with
  | .error failure => .error failure
  | .ok place =>
    match disk.node? place with
    | none => .error .notFound
    | some .folder => .error .isFolder
    | some (.file bytes) => .ok bytes

/-- Whether a path leads to a folder. -/
def isFolder (disk : Disk) (path : Path) : Bool :=
  match disk.locate path with
  | .error _ => false
  | .ok place => disk.hasFolder place

/-- Result of an operation that may change the disk before it fails. -/
structure Result where
  /-- The disk afterwards. -/
  disk : Disk
  /-- The failure, if any. -/
  fault : Option DiskFault

/-- A path to a folder, as far as it was followed. -/
structure Progress where
  /-- The place that was reached. -/
  place : Location
  /-- The names that led there, the last one first. -/
  passed : List Text
  /-- Whether a folder had to be made on the way. -/
  made : Bool

/-- Follows the rest of a path to a folder and makes the folders that are missing. What stops this is blamed
on the whole path; once a folder had to be made, on the path up to what stops it. -/
def ensureBelow (disk : Disk) (path : Path) (progress : Progress) : List Text → Result
  | [] => ⟨disk, none⟩
  | name :: rest =>
    let passed := name :: progress.passed
    let stopped (failure : DiskFailure) : Result :=
      ⟨disk, some ⟨failure, if progress.made then ⟨path.root, passed.reverse⟩ else path, none⟩⟩
    match step progress.place name with
    | .error failure => stopped failure
    | .ok place =>
      match disk.node? place with
      | some .folder => disk.ensureBelow path ⟨place, passed, progress.made⟩ rest
      | some (.file _) =>
        stopped (if progress.made || rest.isEmpty then .alreadyExists else .notFolder)
      | none => (disk.put place .folder).ensureBelow path ⟨place, passed, true⟩ rest

/-- Makes a folder and the folders above it as needed. -/
def ensureFolders (disk : Disk) (path : Path) : Result :=
  match refusal? path with
  | some failure => ⟨disk, some ⟨failure, path, none⟩⟩
  | none => disk.ensureBelow path ⟨basePlace path.root, [], false⟩ path.names

/-- Writes a file, in place of a file that stands there. -/
def write (disk : Disk) (path : Path) (bytes : List UInt8) : Result :=
  match disk.locate path with
  | .error failure => ⟨disk, some ⟨failure, path, none⟩⟩
  | .ok place =>
    if disk.hasFolder place then ⟨disk, some ⟨.isFolder, path, none⟩⟩
    else ⟨disk.put place (.file bytes), none⟩

/-- Moves a file to another path, in place of a file that stands there. -/
def rename (disk : Disk) (source target : Path) : Result :=
  let fail (failure : DiskFailure) : Result := ⟨disk, some ⟨failure, source, some target⟩⟩
  match disk.locate source, disk.locate target with
  | .error failure, _ => fail failure
  | _, .error failure => fail failure
  | .ok from', .ok to' =>
    match disk.node? from' with
    | none => fail .notFound
    | some node =>
      if disk.hasFolder to' then fail .isFolder
      else ⟨(disk.erase from').put to' node, none⟩

/-- Takes away a folder with everything in it. The folder itself goes last, by the path as it leads then:
a path through something that was in the folder leads nowhere any more, and a path without names leads
to where one stands, which cannot be taken away. -/
def removeFolder (disk : Disk) (path : Path) (place : Location) : Result :=
  let cleared := disk.clear place
  if path.names.isEmpty then ⟨cleared, some ⟨.invalidName, path, none⟩⟩
  else
    match cleared.locate path with
    | .error failure => ⟨cleared, some ⟨failure, path, none⟩⟩
    | .ok place => ⟨cleared.erase place, none⟩

/-- Takes away a file, or a folder with everything in it, if it is there. -/
def remove (disk : Disk) (path : Path) : Result :=
  match disk.locate path with
  | .error .nameTooLong => ⟨disk, some ⟨.nameTooLong, path, none⟩⟩
  | .error _ => ⟨disk, none⟩
  | .ok place =>
    match disk.node? place with
    | none => ⟨disk, none⟩
    | some (.file _) => ⟨disk.erase place, none⟩
    | some .folder => disk.removeFolder path place

/-- One step of a save. -/
inductive Step where
  /-- Make a folder and those above it. -/
  | ensureFolders (path : Path)
  /-- Write a file. -/
  | write (path : Path) (bytes : List UInt8)
  /-- Move a file over another one. -/
  | rename (source target : Path)

/-- Carries out one step. -/
def perform (disk : Disk) : Step → Result
  | .ensureFolders path => disk.ensureFolders path
  | .write path bytes => disk.write path bytes
  | .rename source target => disk.rename source target

/-- Carries out steps up to the first failure. -/
def performAll (disk : Disk) : List Step → Result
  | [] => ⟨disk, none⟩
  | step :: rest =>
    match disk.perform step with
    | ⟨disk, none⟩ => disk.performAll rest
    | failed => failed

/-- What is done of a step that breaks off after so many names or bytes. Moving a file has no parts. -/
def Step.begun (count : Nat) : Step → List Step
  | .ensureFolders path => [.ensureFolders ⟨path.root, path.names.take count⟩]
  | .write path bytes => [.write path (bytes.take count)]
  | .rename .. => []

/-- Where steps break off for a reason that does not lie in the tree of files. -/
structure Breakdown where
  /-- What is said about it. -/
  text : Text
  /-- Number of steps that are carried out before. -/
  after : Nat
  /-- How much is done of the next step, if that is begun. -/
  part : Option Nat
deriving DecidableEq, Inhabited

namespace Breakdown

/-- A breakdown before the first step. -/
def atOnce (text : Text) : Breakdown := ⟨text, 0, none⟩

/-- What is carried out of some steps before the breakdown. -/
def carriedOut (breakdown : Breakdown) (steps : List Step) : List Step :=
  steps.take breakdown.after ++
    match breakdown.part, steps[breakdown.after]? with
    | some count, some step => step.begun count
    | _, _ => []

/-- Whether the breakdown comes after all of some steps. -/
def comesAfter (breakdown : Breakdown) (steps : List Step) : Bool := steps.length ≤ breakdown.after

end Breakdown

/-- The names that lead from a place down to another one; none when it is not below. -/
def namesFrom? (place other : Location) : Option (List Text) :=
  if place.isPrefixOf other then
    match other.drop place.length with
    | [] => none
    | name :: rest => if name = ".." || name = "/" then none else some (name :: rest)
  else none

/-- Files and empty folders below a place, by their names from there. -/
def listing (disk : Disk) (place : Location) : List (List Text × Node) :=
  disk.nodes.filterMap fun entry =>
    match namesFrom? place entry.1, entry.2 with
    | none, _ => none
    | some names, .file bytes => some (names, .file bytes)
    | some names, .folder =>
      if disk.nodes.any fun other => (namesFrom? entry.1 other.1).isSome then none
      else some (names, .folder)

theorem entryAt_filter (place other : Location) (h : other ≠ place)
    (nodes : List (Location × Node)) :
    entryAt other (nodes.filter fun entry => entry.1 ≠ place) = entryAt other nodes := by
  induction nodes with
  | nil => rfl
  | cons entry rest ih =>
    obtain ⟨p, node⟩ := entry
    by_cases hp : p = place
    · have h' : ¬ place = other := fun e => h e.symm
      simpa [entryAt, hp, h'] using ih
    · by_cases ho : p = other
      · simp [entryAt, ho, h]
      · simpa [entryAt, hp, ho] using ih

theorem node?_put (disk : Disk) (place : Location) (node : Node) (other : Location)
    (base : isBase place = false) :
    (disk.put place node).node? other = if other = place then some node else disk.node? other := by
  by_cases h : other = place
  · subst h
    simp [node?, put, base, entryAt]
  · have h' : ¬ place = other := fun e => h e.symm
    simp only [node?, put, erase, entryAt, h', h, if_false]
    rw [entryAt_filter place other h]

end Disk

end Taskboard
