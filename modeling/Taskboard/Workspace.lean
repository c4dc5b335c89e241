import Taskboard.Settings.Basic
import Taskboard.Store.Basic

/-!
# The workspace

What all callers share: the clock, the disk, and the log, if one is kept; and the desks at which they sit.
A desk is a store with the choices of whoever uses it. Stores of different desks over the same folder
share files but not what they have in memory.
-/

namespace Taskboard

/-- A place at which lists are worked on. -/
structure Desk where
  /-- Choices of the user. -/
  settings : Settings
  /-- The store behind the desk. -/
  store : Store
  /-- List of calls that name none. -/
  defaultListId : Text
  /-- List of commands. -/
  listId : Text
  /-- Owner of commands that name none. -/
  agentName : Text

instance : Inhabited Store := ⟨⟨default, default, default⟩⟩

instance : Inhabited Desk := ⟨⟨default, default, default, default, default⟩⟩

/-- A desk with a new store, whose callers leave room for `spare` containers more than a list has. -/
def Desk.ofSettings (settings : Settings) (spare : Nat) : Desk where
  settings := settings
  store := .within settings.dataFolder spare
  defaultListId := settings.defaultListId
  listId := settings.defaultListId
  agentName := settings.agentName

/-- The shared surroundings and the desks. -/
structure Workspace where
  /-- The clock. -/
  clock : Clock
  /-- Files and folders. -/
  disk : Disk
  /-- When set, every save breaks off there. -/
  breakdown : Option Disk.Breakdown
  /-- Number of containers for which the call stack leaves room beyond those of a list that was saved. -/
  spare : Nat
  /-- Desks by number. -/
  desks : List Desk
  /-- Numbers of the desks that somebody knows by a name. -/
  names : Keyed Nat
  /-- The log, if one is kept: entries with their times, the latest first. -/
  journal : Option (List (Instant × Entry))
deriving Inhabited

namespace Workspace

/-- A workspace with a given disk and nothing else yet, in which a log is kept or not. -/
def start (clock : Clock) (disk : Disk) (spare : Nat) (keepsLog : Bool) : Workspace :=
  ⟨clock, disk, none, spare, [], .empty, if keepsLog then some [] else none⟩

/-- What a store works with now. -/
def host (workspace : Workspace) : Host :=
  ⟨workspace.clock, workspace.disk, workspace.breakdown, workspace.journal.isSome⟩

/-- A desk by number. -/
def desk (workspace : Workspace) (number : Nat) : Desk := workspace.desks.getD number default

/-- Changes a desk. -/
def modifyDesk (workspace : Workspace) (number : Nat) (change : Desk → Desk) : Workspace :=
  { workspace with desks := workspace.desks.modify number change }

/-- Sets the store of a desk. -/
def setStore (workspace : Workspace) (number : Nat) (store : Store) : Workspace :=
  workspace.modifyDesk number fun desk => { desk with store }

/-- Adds entries to the log, in order, if one is kept and the clock can date them. -/
def record (workspace : Workspace) (entries : List Entry) : Workspace :=
  match workspace.journal, workspace.clock.logTime with
  | some earlier, .ok time =>
    { workspace with
      journal := some ((entries.map fun entry => (time, entry)).reverse ++ earlier) }
  | _, _ => workspace

/-- Notes entries, in order; the result says whether that was possible. -/
def noteAll (workspace : Workspace) (entries : List Entry) : Except Failure Unit × Workspace :=
  (workspace.host.notingAll entries, workspace.record entries)

/-- Notes an entry; the result says whether that was possible. -/
def note (workspace : Workspace) (entry : Entry) : Except Failure Unit × Workspace :=
  workspace.noteAll [entry]

/-- The log in order. -/
def entries (workspace : Workspace) : List (Instant × Entry) :=
  (workspace.journal.getD []).reverse

/-- The workspace with a new log, if one is kept. -/
def withNewLog (workspace : Workspace) : Workspace :=
  { workspace with journal := workspace.journal.map fun _ => [] }

/-- What there is to note about a new desk. -/
def newDeskEntries (desk : Desk) : List Entry :=
  [desk.store.readyEntry,
    .debug Source.setup
      ("State created data_dir=" ++ desk.settings.dataFolder.text ++ " list=" ++
        desk.settings.defaultListId)]

/-- Makes the data folder and sets up a desk; gives its number. -/
def addDesk (workspace : Workspace) (settings : Settings) : Except Failure Nat × Workspace :=
  let made := workspace.disk.ensureFolders settings.dataFolder
  let workspace := { workspace with disk := made.disk }
  match made.fault with
  | some fault => (.error (.disk fault), workspace)
  | none =>
    let desk := Desk.ofSettings settings workspace.spare
    match workspace.noteAll (newDeskEntries desk) with
    | (.error failure, workspace) => (.error failure, workspace)
    | (.ok (), workspace) =>
      (.ok workspace.desks.length, { workspace with desks := workspace.desks ++ [desk] })

/-- Gives a desk a store of its own once more, with a default list. -/
def renewStore (workspace : Workspace) (number : Nat) (defaultListId : Text) :
    Except Failure Unit × Workspace :=
  let store := Store.within (workspace.desk number).settings.dataFolder workspace.spare
  match workspace.note store.readyEntry with
  | (.error failure, workspace) => (.error failure, workspace)
  | (.ok (), workspace) =>
    (.ok (), workspace.modifyDesk number fun desk => { desk with store, defaultListId })

/-- The number of the desk with a name; the desk is set up when it is first asked for. -/
def deskNamed (workspace : Workspace) (name : Text) (settings : Settings) :
    Except Failure Nat × Workspace :=
  match workspace.names.find? name with
  | some number => (.ok number, workspace)
  | none =>
    match workspace.addDesk settings with
    | (.error failure, workspace) => (.error failure, workspace)
    | (.ok number, workspace) =>
      (.ok number, { workspace with names := workspace.names.put name number })

/-- Sets up a desk that takes over a name; gives its number. The desk that had the name loses it first,
also when no other desk can be set up. -/
def renewDesk (workspace : Workspace) (name : Text) (settings : Settings) :
    Except Failure Nat × Workspace :=
  { workspace with names := workspace.names.erase name }.deskNamed name settings

/-- The first half of an operation at a desk, seen from the disk: what is read. -/
def opening (workspace : Workspace) (number : Nat) (listId : Text) : Store.Opening :=
  (workspace.desk number).store.lookUp listId workspace.disk

/-- The first half of an operation at a desk, seen from memory: what was read is noted and kept. -/
def keep (workspace : Workspace) (number : Nat) (listId : Text) (opening : Store.Opening) :
    Except Failure TaskList × Workspace :=
  let (found, store) := (workspace.desk number).store.keep listId opening workspace.host
  (found, (workspace.setStore number store).record opening.entries)

/-- An operation settled at a desk. -/
structure Settled (α : Type) where
  /-- The answer, or why there is none. -/
  result : Except Failure α
  /-- Whether the disk was asked to save. -/
  touched : Bool
  /-- The workspace afterwards. -/
  workspace : Workspace

/-- The second half of an operation at a desk. -/
def settle (workspace : Workspace) (number : Nat) (listId : Text) (list : TaskList)
    (operation : Operation) : Settled operation.Answer :=
  let outcome := (workspace.desk number).store.settle listId list operation workspace.host
  ⟨outcome.result, outcome.touched,
    ({ workspace with disk := outcome.disk }.setStore number outcome.store).record
      outcome.entries⟩

/-- The rest of an operation at a desk after the disk was read for it. -/
def conclude (workspace : Workspace) (number : Nat) (listId : Text) (operation : Operation)
    (opening : Store.Opening) : Settled operation.Answer :=
  match workspace.keep number listId opening with
  | (.error failure, workspace) => ⟨.error failure, false, workspace⟩
  | (.ok list, workspace) => workspace.settle number listId list operation

/-- A whole operation at a desk. -/
def perform (workspace : Workspace) (number : Nat) (listId : Text) (operation : Operation) :
    Except Failure operation.Answer × Workspace :=
  let settled :=
    workspace.conclude number listId operation (workspace.opening number listId)
  (settled.result, settled.workspace)

end Workspace

end Taskboard
