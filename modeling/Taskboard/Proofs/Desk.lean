import Taskboard.Proofs.Store.Course
import Taskboard.Workspace

/-!
# Operations at a desk

An operation at a desk is the operation of the store behind it, with the clock and the disk of the
workspace: the answer, the store and the disk afterwards are those of the store's operation, and nothing
else changes but the log.
-/

namespace Taskboard.Workspace

variable {workspace : Workspace} {number : Nat} {listId : Text} {operation : Operation}

/-- Noting entries changes no desk. -/
@[simp]
theorem desks_record (workspace : Workspace) (entries : List Entry) :
    (workspace.record entries).desks = workspace.desks := by
  rw [record]
  split <;> rfl

/-- Noting entries changes no file. -/
@[simp]
theorem disk_record (workspace : Workspace) (entries : List Entry) :
    (workspace.record entries).disk = workspace.disk := by
  rw [record]
  split <;> rfl

/-- Noting entries changes nothing that a store works with. -/
@[simp]
theorem host_record (workspace : Workspace) (entries : List Entry) :
    (workspace.record entries).host = workspace.host := by
  rw [record]
  split
  · next earlier time kept dated => simp [host, kept]
  · rfl

/-- Noting nothing changes nothing. -/
theorem record_nil (workspace : Workspace) : workspace.record [] = workspace := by
  obtain ⟨clock, disk, refusal, desks, names, journal⟩ := workspace
  rw [record]
  split
  · next earlier time kept dated =>
    cases kept
    rfl
  · rfl

/-- The workspace sees a desk by its number. -/
theorem desk_congr {other : Workspace} (same : other.desks = workspace.desks) (number : Nat) :
    other.desk number = workspace.desk number := by
  rw [desk, desk, same]

/-- Setting a store changes nothing that a store works with. -/
theorem host_setStore (workspace : Workspace) (number : Nat) (store : Store) :
    (workspace.setStore number store).host = workspace.host := rfl

/-- No desk comes or goes when a store is set. -/
theorem length_setStore (workspace : Workspace) (number : Nat) (store : Store) :
    (workspace.setStore number store).desks.length = workspace.desks.length :=
  List.length_modify _ _ _

/-- A desk whose store is set has that store. -/
theorem store_setStore (present : number < workspace.desks.length) (store : Store) :
    ((workspace.setStore number store).desk number).store = store := by
  simp [setStore, modifyDesk, desk, List.getElem?_eq_getElem present]

/-- What an operation at a desk comes to, given what the operation of the store comes to. -/
structure Carries (workspace after : Workspace) (number : Nat) {α : Type} (result : Except Failure α)
    (outcome : Store.Outcome α) : Prop where
  /-- The answer is that of the store. -/
  result : result = outcome.result
  /-- The desk has the store afterwards. -/
  store : (after.desk number).store = outcome.store
  /-- The disk is that of the store afterwards. -/
  disk : after.disk = outcome.disk
  /-- A store works with the same things, the disk apart. -/
  host : after.host = { workspace.host with disk := outcome.disk }
  /-- No desk comes or goes. -/
  length : after.desks.length = workspace.desks.length

/-- An operation at a desk that is there is the operation of its store. -/
theorem carries_perform (present : number < workspace.desks.length) (listId : Text)
    (operation : Operation) :
    Carries workspace (workspace.perform number listId operation).2 number
      (workspace.perform number listId operation).1
      ((workspace.desk number).store.perform listId operation workspace.host) := by
  rw [perform, conclude, keep, opening, Store.perform]
  have disk : workspace.host.disk = workspace.disk := rfl
  simp only [disk]
  cases (workspace.desk number).store.keep listId
      ((workspace.desk number).store.lookUp listId workspace.disk) workspace.host with
  | mk found store =>
    have kept := store_setStore present store
    have length := length_setStore workspace number store
    cases found with
    | error failure =>
      constructor
      · rfl
      · rw [desk_congr (desks_record _ _), kept]
      · rw [disk_record]
        rfl
      · rw [host_record]
        rfl
      · rw [desks_record, length]
    | ok list =>
      simp only [settle, desk_congr (desks_record _ _), kept, host_record, host_setStore]
      constructor
      · rfl
      · rw [desk_congr (desks_record _ _), store_setStore]
        show number < ((workspace.setStore number store).record _).desks.length
        rw [desks_record, length]
        exact present
      · rw [disk_record]
        rfl
      · rw [host_record]
        have same : ((workspace.setStore number store).record
            ((workspace.desk number).store.lookUp listId workspace.disk).entries).host = workspace.host :=
          host_record _ _
        exact congrArg (fun host : Host =>
          { host with disk := (store.settle listId list operation workspace.host).disk }) same
      · rw [desks_record, length_setStore]
        show ((workspace.setStore number store).record _).desks.length = _
        rw [desks_record, length]

end Taskboard.Workspace
