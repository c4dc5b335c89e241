import Taskboard.Json.Listing
import Taskboard.Task.Record

/-!
# Task lines

The line that shows a task to a person, for tasks and for records that may lack members.
-/

namespace Taskboard

/-- The line that shows a task with the given parts; an empty owner is shown as a dash, and no
dependencies are not shown. -/
def taskLine (id status subject : Text) (owner : Option Text) (dependencies : List Text) :
    Text :=
  let owner :=
    match owner with
    | some owner => if owner = "" then "-" else owner
    | none => "-"
  let line := "#" ++ id ++ " [" ++ status ++ "] " ++ subject ++ " (owner: " ++ owner ++ ")"
  if dependencies.isEmpty then line
  else line ++ " blocked_by: " ++ Text.intercalate ", " dependencies

/-- The line that shows a task. -/
def Task.line (task : Task) : Text :=
  taskLine task.id task.status.word task.subject task.owner task.blockedBy

/-- Why a record has no line. -/
inductive LineFault where
  /-- It is not a record at all but a value of another kind. -/
  | notRecord (kind : Text)
  /-- It lacks a member. -/
  | missing (name : Text)
  /-- Its dependencies cannot be listed. -/
  | dependencies (fault : ListingFault)
deriving DecidableEq, Inhabited

/-- Wording of why a record has no line. -/
def LineFault.message : LineFault → Text
  | .notRecord kind => "'" ++ kind ++ "' object has no attribute 'get'"
  | .missing name => Text.quoted name
  | .dependencies fault => fault.message

namespace Record

/-- A member of a record as it stands in a line. -/
def shownMember (members : List (Text × Json)) (name : Text) : Except LineFault Text :=
  match Entries.find? name members with
  | some value => .ok value.shown
  | none => .error (.missing name)

/-- Whether a value counts as nothing: null, false, zero, or empty. -/
def isNothing : Json → Bool
  | .null => true
  | .bool value => !value
  | .int value => value = 0
  | .float value => value.ratio?.any (·.1 = 0)
  | .string value => value = ""
  | .list items => items.isEmpty
  | .object members => members.isEmpty

/-- A member of a record, unless it counts as nothing. -/
def something? (members : List (Text × Json)) (name : Text) : Option Json :=
  (Entries.find? name members).filter (!isNothing ·)

/-- Dependencies of a record. -/
def dependencies (members : List (Text × Json)) : Except LineFault (List Text) :=
  match something? members "blocked_by" with
  | none => .ok []
  | some value => value.listedTexts.mapError .dependencies

/-- The line that shows a record; the first member it lacks is reported before anything else. -/
def line : Json → Except LineFault Text
  | .object members => do
    let id ← shownMember members "id"
    let status ← shownMember members "status"
    let subject ← shownMember members "subject"
    let owner := (something? members "owner").map Json.shown
    return taskLine id status subject owner (← dependencies members)
  | value => .error (.notRecord value.kind)

end Record

end Taskboard
