import Taskboard.Store.Operation
import Taskboard.Time.Clock

/-!
# The store

A store keeps lists in memory over a folder with one file per list. A list is read from its file when
it is first needed and stays in memory from then on; every change is saved at once as a whole, by
writing a file beside the target and moving it into place. A save that fails leaves the changed list in
memory, and the next save that succeeds carries the change to the file. The text of a list is encoded only once
the file beside the target is open; a surrogate in it leaves that file empty.

One operation has two halves, each with at most one access to the disk: opening the list and settling
the operation on it. `Store.perform` runs them in one go. Where a log is kept, a list is kept in memory
once it is noted where it came from, and a change is saved once it is noted; a clock that cannot date the
entry makes the operation fail there.
-/

namespace Taskboard

/-- What a store works with at one moment. -/
structure Host where
  /-- The clock. -/
  clock : Clock
  /-- The files. -/
  disk : Disk
  /-- When set, every save breaks off there. -/
  breakdown : Option Disk.Breakdown
  /-- Whether a log is kept. -/
  keepsLog : Bool

namespace Host

/-- Whether an entry can be noted now. Where no log is kept nothing can go wrong. -/
def noting (host : Host) : Except Failure Unit :=
  if host.keepsLog then (host.clock.logTime.mapError Failure.quantity).map fun _ => ()
  else .ok ()

/-- Whether all of some entries can be noted now. -/
def notingAll (host : Host) (entries : List Entry) : Except Failure Unit :=
  if entries.isEmpty then .ok () else host.noting

end Host

/-- Lists in memory over the folder of their files. All calls of one store are taken to come from one depth of
the call stack. -/
structure Store where
  /-- Folder of the files. -/
  folder : Path
  /-- Lists read so far. -/
  lists : Keyed TaskList
  /-- Number of containers for which the call stack leaves room beyond those of a list that was saved. -/
  spare : Nat

namespace Store

/-- A store with a list in memory. -/
def hold (store : Store) (listId : Text) (list : TaskList) : Store :=
  { store with lists := store.lists.put listId list }

/-- A store with nothing in memory, over the task folder within a data folder. -/
def within (dataFolder : Path) (spare : Nat) : Store := ⟨dataFolder.child "tasks", .empty, spare⟩

/-- The entry about a new store. -/
def readyEntry (store : Store) : Entry :=
  .info Source.store ("TaskStore ready dir=" ++ store.folder.text)

/-- Whether a text can name a list: it is not empty, is neither of the names with a meaning of their
own, and holds no character that separates or ends names. -/
def isListId (listId : Text) : Bool :=
  listId ≠ "" && listId ≠ "." && listId ≠ ".." &&
    listId.toList.all fun c => c ≠ '/' && c ≠ '\\' && c ≠ CodePoint.ofNat 0

/-- The file of a list. -/
def filePath (store : Store) (listId : Text) : Except Failure Path :=
  if isListId listId then .ok (store.folder.child (listId ++ ".json"))
  else .error (.invalid (.badListId listId))

/-- The file that is written beside another one. -/
def beside (path : Path) : Path := path.withSuffix ".tmp"

/-- The steps of a save before the move into place: the folder, and the file beside the target. -/
def openingSteps (path : Path) (bytes : List UInt8) : List Disk.Step :=
  [.ensureFolders path.parent, .write (beside path) bytes]

/-- The steps of a save: the folder, the file beside the target, the move into place. -/
def saveSteps (path : Path) (bytes : List UInt8) : List Disk.Step :=
  openingSteps path bytes ++ [.rename (beside path) path]

/-- The first half of an operation: where a list was found. -/
inductive Opening where
  /-- It is in memory. -/
  | inMemory (list : TaskList)
  /-- Its identifier names no file. -/
  | unnamed (failure : Failure)
  /-- The disk was read for it; an entry says what was found. -/
  | read (found : Except Failure (TaskList × Entry))

/-- Whether the disk was read. -/
def Opening.touched : Opening → Bool
  | .read _ => true
  | _ => false

/-- What there is to note about a list that was found. -/
def Opening.entries : Opening → List Entry
  | .read (.ok (_, entry)) => [entry]
  | _ => []

/-- Why a list cannot be opened whose file the disk does not give. -/
def unreadable (path : Path) (failure : DiskFailure) : Failure :=
  if failure.code?.isSome then .unkept (.unreadable path (.disk ⟨failure, path, none⟩))
  else .unaddressable ⟨failure, path, none⟩

/-- Reads a list from its file, where there is room for `spare` containers more than a list has. A file that
is absent stands for an empty list. -/
def fetch (spare : Nat) (listId : Text) (path : Path) (disk : Disk) : Except Failure (TaskList × Entry) :=
  match disk.read path with
  | .error .notFound =>
    .ok (.empty, .info Source.store ("Task list " ++ listId ++ " initialized empty"))
  | .error failure => .error (unreadable path failure)
  | .ok bytes =>
    match TaskList.load spare bytes with
    | .ok list =>
      .ok (list, .info Source.store
        ("Task list " ++ listId ++ " loaded from " ++ path.text ++ " (tasks=" ++
          toString list.tasks.size ++ " next_id=" ++ Decimal.natText list.nextId ++ ")"))
    | .error (.notDocument (.tooDeep container)) => .error (.nestedTooDeep container)
    | .error fault => .error (.corrupt path.text (.load fault))

/-- Looks for a list in memory, or else in its file. -/
def lookUp (store : Store) (listId : Text) (disk : Disk) : Opening :=
  match store.lists.find? listId with
  | some list => .inMemory list
  | none =>
    match store.filePath listId with
    | .error failure => .unnamed failure
    | .ok path => .read (fetch store.spare listId path disk)

/-- Takes a list that was found, and keeps it in memory once it can be noted where it came from. -/
def keep (store : Store) (listId : Text) (opening : Opening) (host : Host) :
    Except Failure TaskList × Store :=
  match opening with
  | .inMemory list => (.ok list, store)
  | .unnamed failure => (.error failure, store)
  | .read (.error failure) => (.error failure, store)
  | .read (.ok (list, _)) =>
    match host.noting with
    | .error failure => (.error failure, store)
    | .ok () => (.ok list, store.hold listId list)

/-- Saves a list. -/
structure Saving where
  /-- Whether it was saved. -/
  result : Except Failure Unit
  /-- The disk afterwards. -/
  disk : Disk
  /-- Whether the disk was asked. -/
  touched : Bool
  /-- Whether the new file was moved into place. -/
  moved : Bool

/-- Why a list is not saved when the disk does not do a step. -/
def unsaved (listId : Text) (path : Path) (fault : DiskFault) : Failure :=
  if fault.failure.code?.isSome then .unkept (.unsaved listId path (.disk fault))
  else .unstorable (.place fault)

/-- Carries out steps of a save. The save ends as given if the disk does them all. -/
def carryOut (listId : Text) (path : Path) (disk : Disk) (steps : List Disk.Step)
    (ending : Except Failure Unit) (moved : Bool) : Saving :=
  match disk.performAll steps with
  | ⟨disk, none⟩ => ⟨ending, disk, true, moved⟩
  | ⟨disk, some fault⟩ => ⟨.error (unsaved listId path fault), disk, true, false⟩

/-- Saves a list to its file. -/
def save (store : Store) (listId : Text) (list : TaskList) (host : Host) : Saving :=
  match store.filePath listId with
  | .error failure => ⟨.error failure, host.disk, false, false⟩
  | .ok path =>
    let brokenOff (breakdown : Disk.Breakdown) : Failure :=
      .unkept (.unsaved listId path (.refused breakdown.text))
    match list.save with
    | .error .longNumber => ⟨.error (.unkept (.unwritable listId)), host.disk, false, false⟩
    | .error (.surrogate fault) =>
      let steps := openingSteps path []
      let ending : Failure := .unstorable (.contents fault)
      match host.breakdown with
      | none => carryOut listId path host.disk steps (.error ending) false
      | some breakdown =>
        carryOut listId path host.disk (breakdown.carriedOut steps)
          (.error (if breakdown.comesAfter steps then ending else brokenOff breakdown)) false
    | .ok bytes =>
      let steps := saveSteps path bytes
      match host.breakdown with
      | none => carryOut listId path host.disk steps (.ok ()) true
      | some breakdown =>
        carryOut listId path host.disk (breakdown.carriedOut steps) (.error (brokenOff breakdown))
          (breakdown.comesAfter steps)

/-- What an operation, or its second half, comes to. -/
structure Outcome (α : Type) where
  /-- The answer, or why there is none. -/
  result : Except Failure α
  /-- The store afterwards. -/
  store : Store
  /-- The disk afterwards. -/
  disk : Disk
  /-- What there is to note, in order. -/
  entries : List Entry
  /-- Whether the disk was asked to save. -/
  touched : Bool
  /-- Whether a new file was moved into place. -/
  moved : Bool

/-- The second half of an operation: carries it out on the opened list and saves a change, once it is
noted. -/
def settle (store : Store) (listId : Text) (list : TaskList) (operation : Operation)
    (host : Host) : Outcome operation.Answer :=
  let attempt := list.attempt listId host.clock.second operation
  match attempt.verdict, host.notingAll attempt.entries with
  | .brokenOff list failure, _ =>
    ⟨.error failure, store.hold listId list, host.disk, attempt.entries, false, false⟩
  | .changed list _, .error failure =>
    ⟨.error failure, store.hold listId list, host.disk, attempt.entries, false, false⟩
  | _, .error failure => ⟨.error failure, store, host.disk, attempt.entries, false, false⟩
  | .refused failure, .ok () => ⟨.error failure, store, host.disk, attempt.entries, false, false⟩
  | .answered answer, .ok () => ⟨.ok answer, store, host.disk, attempt.entries, false, false⟩
  | .changed list answer, .ok () =>
    let store := store.hold listId list
    let saving := store.save listId list host
    ⟨saving.result.map fun _ => answer, store, saving.disk, attempt.entries, saving.touched,
      saving.moved⟩

/-- A whole operation on a list. -/
def perform (store : Store) (listId : Text) (operation : Operation) (host : Host) :
    Outcome operation.Answer :=
  let opening := store.lookUp listId host.disk
  match store.keep listId opening host with
  | (.error failure, store) => ⟨.error failure, store, host.disk, opening.entries, false, false⟩
  | (.ok list, store) =>
    let outcome := store.settle listId list operation host
    { outcome with entries := opening.entries ++ outcome.entries }

end Store

end Taskboard
