import Taskboard.Script

/-!
# The task list tool

One call with named parameters stands for one operation. The tool reads the parameters, asks the store
of a desk, and answers with tasks. A parameter of the wrong type counts as absent.
-/

namespace Taskboard

/-- What the tool answers. -/
inductive ToolAnswer where
  | one (task : Task)
  | many (tasks : List Task)
deriving DecidableEq

/-- Record of an answer. -/
def ToolAnswer.toJson : ToolAnswer → Json
  | .one task => task.toJson
  | .many tasks =>
    .object [("tasks", .list (tasks.map Task.toJson)), ("count", .int tasks.length)]

namespace Tool

/-- Name of the tool. -/
def name : Text := "task_list"

/-- What the tool is for. -/
def description : Text :=
  "Manage a shared task list for coordinating work between agents. " ++
    "Supports creating tasks, listing with filters, claiming tasks, " ++
    "updating status, and tracking dependencies (blocked_by)."

/-- List used unless another one is chosen. -/
def defaultListId : Text := "default"

/-- The actions of the tool. -/
def actions : List Text := ["create", "list", "get", "update", "claim"]

/-- Description of a text parameter. -/
def textParameter (description : Text) : Json :=
  .object [("type", .string "string"), ("description", .string description)]

/-- Description of a parameter that is one of some words. -/
def choiceParameter (words : List Text) (description : Text) : Json :=
  .object [("type", .string "string"), ("enum", .list (words.map Json.string)),
    ("description", .string description)]

/-- Description of the parameters. -/
def schema : Json :=
  .object [
    ("type", .string "object"),
    ("properties", .object [
      ("action", choiceParameter actions "The operation to perform"),
      ("list_id", textParameter "Task list identifier (default: 'default')"),
      ("task_id", textParameter "Task ID (required for get, update, claim)"),
      ("subject", textParameter "Task subject (required for create, optional for update)"),
      ("description", textParameter "Task description"),
      ("status", choiceParameter (Status.all.map Status.word)
        "Status filter (for list) or new status (for update)"),
      ("owner", textParameter "Owner name (required for claim, optional for update)"),
      ("blocked_by", .object [
        ("type", .string "array"),
        ("items", .object [("type", .string "string")]),
        ("description", .string "Task IDs this task depends on (for update)")])]),
    ("required", .list [.string "action"])]

/-- Parameters of a call, by name. -/
abbrev Parameters := List (Text × Json)

/-- A text parameter. -/
def text? (parameters : Parameters) (key : Text) : Option Text :=
  (Entries.find? key parameters).bind Json.string?

/-- A text parameter that an action needs. -/
def needed (parameters : Parameters) (action key : Text) : Except Failure Text :=
  match text? parameters key with
  | some text => .ok text
  | none => .error (.invalid (.missingParameter action key))

/-- The status parameter. -/
def status? (parameters : Parameters) : Except Failure (Option Status) :=
  match text? parameters "status" with
  | some word => (Status.parse word).map some
  | none => .ok none

/-- The dependencies of a call; items that are not texts are left out. -/
def dependencies? (parameters : Parameters) : Option (List Text) :=
  match Entries.find? "blocked_by" parameters with
  | some (.list items) => some (items.filterMap Json.string?)
  | _ => none

/-- The operation a call stands for. -/
def operation (action : Text) (parameters : Parameters) : Except Failure Operation := do
  if action = "create" then
    let subject ← needed parameters action "subject"
    return .create subject ((text? parameters "description").getD "")
  else if action = "list" then return .list (← status? parameters)
  else if action = "get" then return .get (← needed parameters action "task_id")
  else if action = "update" then
    let taskId ← needed parameters action "task_id"
    let status ← status? parameters
    return .update taskId {
      status
      subject := text? parameters "subject"
      description := text? parameters "description"
      owner := text? parameters "owner"
      blockedBy := dependencies? parameters }
  else if action = "claim" then
    let taskId ← needed parameters action "task_id"
    let owner ← needed parameters action "owner"
    return .claim taskId owner
  else throw (.invalid (.unknownAction action))

/-- The answer of the tool, given that of the store; a task that is not there is a failure. -/
def answer : (operation : Operation) → operation.Answer → Except Failure ToolAnswer
  | .create .., task => .ok (.one task)
  | .list _, tasks => .ok (.many tasks)
  | .get _, some task => .ok (.one task)
  | .get taskId, none => .error (.notFound taskId)
  | .update .., task => .ok (.one task)
  | .claim .., task => .ok (.one task)

/-- Carries out a call at a desk. -/
def execute {Job Report : Type} (number : Nat) (parameters : Parameters) :
    Undertaking Job Report ToolAnswer := do
  match text? parameters "action" with
  | none => throw (.invalid .missingAction)
  | some action =>
    let desk ← Script.desk number
    let listId := Settings.orElse ((text? parameters "list_id").getD "") desk.defaultListId
    Script.note (.debug Source.tool
      ("task_list operation action=" ++ action ++ " list_id=" ++ listId))
    let operation ← operation action parameters
    let result ← Script.request number listId operation
    answer operation result

end Tool

end Taskboard
