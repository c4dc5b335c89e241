import Taskboard.Json.Printer
import Taskboard.Json.Reader
import Taskboard.Task.List
import Taskboard.Text.LineEnds
import Taskboard.Text.Utf8

/-!
# Records of tasks and lists

The JSON form of tasks and lists, and the bytes a list is saved as. Reading a record checks every
field, ignores unknown members and fills in the optional ones; the counter of a list has to be past the
number of every key. A refusal names the first rule that a record breaks.
-/

namespace Taskboard

/-- The rule that a record breaks. -/
inductive RecordFault where
  | taskNotObject
  | missingFields (names : List Text)
  | unknownStatus (shown : Text)
  | badOwner
  | notText (field : Text)
  | notInteger (field : Text)
  | notTexts (field : Text)
  | listNotObject
  | listIncomplete
  | tasksNotObject
  | counterBehind (nextId highest : Int)
deriving DecidableEq, Inhabited

/-- Wording of a broken rule. -/
def RecordFault.message : RecordFault → Text
  | .taskNotObject => "task record must be an object"
  | .missingFields names => "task record missing fields: " ++ Text.intercalate ", " names
  | .unknownStatus shown => "unknown task status: " ++ shown
  | .badOwner => "task owner must be a string or null"
  | .notText field => "'" ++ field ++ "' must be a string"
  | .notInteger field => "'" ++ field ++ "' must be an integer"
  | .notTexts field => "'" ++ field ++ "' must be a list of strings"
  | .listNotObject => "task list must be an object"
  | .listIncomplete => "task list requires 'next_id' and 'tasks'"
  | .tasksNotObject => "'tasks' must be an object"
  | .counterBehind nextId highest =>
    "'next_id' " ++ Decimal.intText nextId ++ " is not past the highest task id " ++
      Decimal.intText highest

namespace Record

/-- A field that has to be a text. -/
def textField (field : Text) (value : Json) : Except RecordFault Text :=
  match value.string? with
  | some text => .ok text
  | none => .error (.notText field)

/-- A field that has to be an integer. -/
def integerField (field : Text) (value : Json) : Except RecordFault Int :=
  match value.int? with
  | some n => .ok n
  | none => .error (.notInteger field)

/-- A field that has to be a list of texts. -/
def textsField (field : Text) (value : Json) : Except RecordFault (List Text) :=
  match value.strings? with
  | some texts => .ok texts
  | none => .error (.notTexts field)

/-- A field that has to be one of the status words. -/
def statusField (value : Json) : Except RecordFault Status :=
  match value.string?.bind Status.ofWord? with
  | some status => .ok status
  | none => .error (.unknownStatus value.shown)

/-- A field that has to be a text or null. -/
def ownerField : Json → Except RecordFault (Option Text)
  | .null => .ok none
  | .string owner => .ok (some owner)
  | _ => .error .badOwner

/-- Members that every task record has. -/
def requiredFields : List Text := ["id", "subject", "status", "created_at", "updated_at"]

end Record

namespace Task

/-- Record of a task. -/
def toJson (task : Task) : Json :=
  .object [
    ("id", .string task.id),
    ("subject", .string task.subject),
    ("description", .string task.description),
    ("status", .string task.status.word),
    ("owner", match task.owner with | some owner => .string owner | none => .null),
    ("blocks", .list (task.blocks.map Json.string)),
    ("blocked_by", .list (task.blockedBy.map Json.string)),
    ("created_at", .int task.createdAt),
    ("updated_at", .int task.updatedAt)]

/-- Reads the members of a task record that has all required ones. -/
def ofMembers (members : List (Text × Json)) : Except RecordFault Task := do
  let field (name : Text) (default : Json) : Json := (Entries.find? name members).getD default
  let status ← Record.statusField (field "status" .null)
  let owner ← Record.ownerField (field "owner" .null)
  let id ← Record.textField "id" (field "id" .null)
  let subject ← Record.textField "subject" (field "subject" .null)
  let description ← Record.textField "description" (field "description" (.string ""))
  let createdAt ← Record.integerField "created_at" (field "created_at" .null)
  let updatedAt ← Record.integerField "updated_at" (field "updated_at" .null)
  let blocks ← Record.textsField "blocks" (field "blocks" (.list []))
  let blockedBy ← Record.textsField "blocked_by" (field "blocked_by" (.list []))
  return { id, subject, description, status, createdAt, updatedAt, owner, blocks, blockedBy }

/-- Reads a task record. -/
def ofJson : Json → Except RecordFault Task
  | .object members =>
    let missing := Record.requiredFields.filter fun name => (Entries.find? name members).isNone
    if missing.isEmpty then ofMembers members else .error (.missingFields missing)
  | _ => .error .taskNotObject

end Task

namespace TaskList

/-- Record of a list. -/
def toJson (list : TaskList) : Json :=
  .object [
    ("next_id", .int list.nextId),
    ("tasks", .object (list.tasks.entries.map fun entry => (entry.1, entry.2.toJson)))]

/-- Reads the task records of a list one after another. -/
def readTasks : List (Text × Json) → Except RecordFault (List (Text × Task))
  | [] => .ok []
  | (key, value) :: rest => do
    let task ← Task.ofJson value
    let others ← readTasks rest
    return (key, task) :: others

/-- Reads a list record. -/
def ofJson : Json → Except RecordFault TaskList
  | .object members =>
    match Entries.find? "next_id" members, Entries.find? "tasks" members with
    | some nextId, some (.object records) => do
      let tasks ← readTasks records
      let nextId ← Record.integerField "next_id" nextId
      let list : TaskList := ⟨nextId.toNat, .ofList tasks⟩
      if nextId < 1 || nextId ≤ list.highest then .error (.counterBehind nextId list.highest)
      else .ok list
    | some _, some _ => .error .tasksNotObject
    | _, _ => .error .listIncomplete
  | _ => .error .listNotObject

/-- Why bytes are not a saved list. -/
inductive LoadFault where
  | notText (fault : Utf8.Fault)
  | notDocument (refusal : Json.Refusal)
  | badRecord (fault : RecordFault)
deriving DecidableEq, Inhabited

/-- Wording of the reason. -/
def LoadFault.message : LoadFault → Text
  | .notText fault => fault.message
  | .notDocument refusal => refusal.message
  | .badRecord fault => fault.message

/-- Number of containers inside each other in the document of a list. -/
def depth : Nat := 4

/-- Reads a list from a document text, where there is room for `spare` containers more than a list has. -/
def ofText (spare : Nat) (text : List CodePoint) : Except LoadFault TaskList :=
  match Json.read (spare + depth) text with
  | .error refusal => .error (.notDocument refusal)
  | .ok value =>
    match ofJson value with
    | .error fault => .error (.badRecord fault)
    | .ok list => .ok list

/-- Reads a list from the bytes of a file. -/
def load (spare : Nat) (bytes : List UInt8) : Except LoadFault TaskList :=
  match Utf8.decode bytes with
  | .error fault => .error (.notText fault)
  | .ok text => ofText spare (Text.unifyLineEnds text)

/-- Why a list has no bytes to be saved as. -/
inductive SaveFault where
  /-- A number has too many digits. -/
  | longNumber
  /-- A surrogate stands in a text. -/
  | surrogate (fault : Utf8.EncodeFault)
deriving DecidableEq, Inhabited

/-- Bytes of the file a list is saved as. -/
def save (list : TaskList) : Except SaveFault (List UInt8) :=
  if list.toJson.holdsLongInteger then .error .longNumber
  else (Utf8.encode list.toJson.written).mapError .surrogate

end TaskList

end Taskboard
