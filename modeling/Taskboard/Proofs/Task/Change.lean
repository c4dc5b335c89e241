import Taskboard.Task.Basic

/-!
# Fields and changes

A change supplies new values for some of five fields of a task. A field is looked at through its value in a task and
the value that a change supplies for it, so that what is said of changes is said of every field at once. Two changes
are apart if no field is supplied by both.
-/

namespace Taskboard

/-- A field that a change may supply. -/
inductive Field where
  | status
  | subject
  | description
  | owner
  | blockedBy
deriving DecidableEq

/-- The five fields. -/
def Field.all : List Field := [.status, .subject, .description, .owner, .blockedBy]

theorem Field.mem_all (field : Field) : field ∈ all := by
  cases field <;> decide

/-- What a field holds. -/
def Field.Value : Field → Type
  | .status => Status
  | .subject | .description => Text
  | .owner => Option Text
  | .blockedBy => List Text

/-- What a field of a task holds. -/
def Task.value (task : Task) : (field : Field) → field.Value
  | .status => task.status
  | .subject => task.subject
  | .description => task.description
  | .owner => task.owner
  | .blockedBy => task.blockedBy

namespace Change

/-- What a change supplies for a field, if it supplies anything. -/
def value? (change : Change) : (field : Field) → Option field.Value
  | .status => change.status
  | .subject => change.subject
  | .description => change.description
  | .owner => change.owner.map some
  | .blockedBy => change.blockedBy

/-- Whether no field is supplied by both of two changes. -/
def Apart (first second : Change) : Prop :=
  ∀ field, first.value? field = none ∨ second.value? field = none

theorem Apart.symm {first second : Change} (apart : first.Apart second) : second.Apart first :=
  fun field => (apart field).symm

theorem apart_iff {first second : Change} : first.Apart second ↔
    ∀ field ∈ Field.all, (first.value? field).isNone ∨ (second.value? field).isNone := by
  simp only [Apart, Field.mem_all, true_implies, Option.isNone_iff_eq_none]

instance (first second : Change) : Decidable (first.Apart second) := decidable_of_iff _ apart_iff.symm

end Change

namespace Task

variable {task other : Task}

/-- After a change, a field holds what is supplied for it, or else what it held. -/
theorem value_apply (task : Task) (change : Change) (field : Field) :
    (task.apply change).value field = (change.value? field).getD (task.value field) := by
  cases field with
  | owner =>
    show change.owner.orElse (fun _ => task.owner) = (change.owner.map some).getD task.owner
    cases change.owner <;> rfl
  | _ => rfl

/-- Noting the time of a change is not a change of a field. -/
theorem value_touch (task : Task) (now : Int) (field : Field) : (task.touch now).value field = task.value field := by
  cases field <;> rfl

/-- A task is known by its five fields, its identifier, its two times and what it is said to block. -/
theorem ext_value (values : ∀ field, task.value field = other.value field) (id : task.id = other.id)
    (createdAt : task.createdAt = other.createdAt) (updatedAt : task.updatedAt = other.updatedAt)
    (blocks : task.blocks = other.blocks) : task = other := by
  have status : task.status = other.status := values .status
  have subject : task.subject = other.subject := values .subject
  have description : task.description = other.description := values .description
  have owner : task.owner = other.owner := values .owner
  have blockedBy : task.blockedBy = other.blockedBy := values .blockedBy
  cases task
  cases other
  cases status
  cases subject
  cases description
  cases owner
  cases blockedBy
  cases id
  cases createdAt
  cases updatedAt
  cases blocks
  rfl

end Task

end Taskboard
