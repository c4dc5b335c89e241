import Taskboard.Number.Decimal

/-!
# Tasks

A task is a piece of work with an identifier, a description, a status and an owner, and with the
identifiers of the tasks it waits for. Identifiers are texts; the number read from an identifier only
orders tasks.
-/

namespace Taskboard

/-- Where a task stands. -/
inductive Status where
  | pending
  | inProgress
  | completed
deriving DecidableEq, Inhabited

namespace Status

/-- The three statuses. -/
def all : List Status := [.pending, .inProgress, .completed]

/-- The word for a status in files and calls. -/
def word : Status → Text
  | .pending => "pending"
  | .inProgress => "in_progress"
  | .completed => "completed"

/-- The symbolic name of a status. -/
def symbol : Status → Text
  | .pending => "PENDING"
  | .inProgress => "IN_PROGRESS"
  | .completed => "COMPLETED"

/-- The status a word stands for. -/
def ofWord? (word : Text) : Option Status := all.find? fun status => status.word = word

theorem ofWord?_word (status : Status) : ofWord? status.word = some status := by
  cases status <;> decide

end Status

/-- A task. -/
structure Task where
  /-- Identifier of the task. -/
  id : Text
  /-- One-line summary. -/
  subject : Text
  /-- Longer text, possibly empty. -/
  description : Text
  /-- Where the task stands. -/
  status : Status
  /-- Whole second at which the task was made. -/
  createdAt : Int
  /-- Whole second of the last change; never goes back. -/
  updatedAt : Int
  /-- Who claimed the task last. -/
  owner : Option Text
  /-- Identifiers of tasks said to wait for this one; for information only. -/
  blocks : List Text
  /-- Identifiers of the tasks that have to be completed before this one can be claimed. -/
  blockedBy : List Text
deriving DecidableEq, Inhabited

namespace Task

/-- Notes a change at the given second. A clock that goes back leaves the time of change alone. -/
def touch (task : Task) (now : Int) : Task := { task with updatedAt := max task.updatedAt now }

/-- A new pending task. -/
def fresh (id subject description : Text) (now : Int) : Task where
  id := id
  subject := subject
  description := description
  status := .pending
  createdAt := now
  updatedAt := now
  owner := none
  blocks := []
  blockedBy := []

/-- The number an identifier is ordered by; identifiers that are not numbers count as zero. -/
def numericId (id : Text) : Int := (Decimal.readInt? id.toList).getD 0

end Task

/-- New values for some fields of a task. -/
structure Change where
  /-- New status. -/
  status : Option Status
  /-- New subject. -/
  subject : Option Text
  /-- New description. -/
  description : Option Text
  /-- New owner. -/
  owner : Option Text
  /-- New dependencies. -/
  blockedBy : Option (List Text)
deriving DecidableEq, Inhabited

/-- Sets only the status. -/
def Change.toStatus (status : Status) : Change := ⟨some status, none, none, none, none⟩

/-- A task with the supplied fields replaced and the others as they were. -/
def Task.apply (task : Task) (change : Change) : Task :=
  { task with
    status := change.status.getD task.status
    subject := change.subject.getD task.subject
    description := change.description.getD task.description
    owner := change.owner.orElse fun _ => task.owner
    blockedBy := change.blockedBy.getD task.blockedBy }

end Taskboard
