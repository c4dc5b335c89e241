import Taskboard.Command.Registry
import Taskboard.Command.TaskLine
import Taskboard.Tool

/-!
# The commands of the console

Nine commands look at a desk, choose its list, and call the tool for it. Their replies show tasks by
their lines.
-/

namespace Taskboard

/-- A command of the console. -/
inductive Command where
  | help
  | status
  | use
  | list
  | get
  | create
  | claim
  | done
  | block
deriving DecidableEq, Inhabited

namespace Command

variable {Job Report : Type}

/-- The commands in the order in which help shows them. -/
def all : List Command := [.help, .status, .use, .list, .get, .create, .claim, .done, .block]

/-- Main name of a command. -/
def name : Command → Text
  | .help => "help"
  | .status => "status"
  | .use => "use"
  | .list => "list"
  | .get => "get"
  | .create => "create"
  | .claim => "claim"
  | .done => "done"
  | .block => "block"

/-- Further names of a command. -/
def aliases : Command → List Text
  | .help => ["h", "?"]
  | .list => ["ls"]
  | .create => ["new"]
  | _ => []

/-- Help text of a command. -/
def helpText : Command → Text
  | .help => "Show available commands."
  | .status => "Show current list, agent and data dir."
  | .use => "Switch task list: /use <list_id>."
  | .list => "List tasks: /list [pending|in_progress|completed]."
  | .get => "Show one task: /get <task_id>."
  | .create => "Create a task: /create <subject> [| description]."
  | .claim => "Claim a pending task: /claim <task_id> [owner]."
  | .done => "Mark a task completed: /done <task_id>."
  | .block => "Set dependencies: /block <task_id> [dep_id ...]."

/-- The registry of all commands. -/
def registry : Registry Command :=
  all.foldl (fun registry command =>
    registry.register command.name command command.helpText command.aliases) .empty

/-- The task of an answer; of several tasks, the first. -/
def taskOf : ToolAnswer → Task
  | .one task => task
  | .many tasks => tasks.headD default

/-- The tasks of an answer. -/
def tasksOf : ToolAnswer → List Task
  | .one task => [task]
  | .many tasks => tasks

/-- Calls the tool on the current list of a desk for one task, and says something about it. -/
def replyWithTask (number : Nat) (action : Text) (parameters : Tool.Parameters)
    (reply : Task → Text) : Undertaking Job Report Text := do
  let desk ← Script.desk number
  let answer ← Tool.execute number
    (("action", .string action) :: ("list_id", .string desk.listId) :: parameters)
  return reply (taskOf answer)

/-- Subject and description in the arguments of `create`: the texts before and after the first bar,
with single blanks between words. -/
def subjectAndDescription (arguments : List Text) : Text × Text :=
  let (subject, description) := Text.cutAt '|' (Text.intercalate " " arguments).toList
  (Text.ofList (Text.trimBy Text.isBlank subject),
    Text.ofList (Text.trimBy Text.isBlank description))

/-- Dependencies in the arguments of `block`: commas around a word do not count, and words of commas
alone are left out. -/
def dependencies (arguments : List Text) : List Text :=
  (arguments.map fun word => Text.ofList (Text.trimBy (· = ',') word.toList)).filter (· ≠ "")

/-- Shows the current list, all of it or one status. -/
def runList (number : Nat) (arguments : List Text) : Undertaking Job Report Text := do
  let desk ← Script.desk number
  let filter :=
    match arguments with
    | [] => []
    | word :: _ => [("status", Json.string (Text.lower word))]
  let answer ← Tool.execute number
    (("action", .string "list") :: ("list_id", .string desk.listId) :: filter)
  let desk ← Script.desk number
  let tasks := tasksOf answer
  if tasks.isEmpty then return "No tasks in list " ++ desk.listId ++ "."
  else
    return Text.intercalate "\n"
      (("Tasks in " ++ desk.listId ++ " (" ++ toString tasks.length ++ "):") ::
        tasks.map Task.line)

/-- Chooses the current list. -/
def runUse (number : Nat) (arguments : List Text) : Undertaking Job Report Text := do
  match arguments with
  | [] =>
    let desk ← Script.desk number
    return ("Current list: " ++ desk.listId ++ ". Usage: /use <list_id>")
  | listId :: _ =>
    Script.change (·.modifyDesk number fun desk => { desk with listId })
    return ("Switched to list " ++ listId ++ ".")

/-- Carries out a command at a desk. -/
def run (number : Nat) (command : Command) (arguments : List Text) :
    Undertaking Job Report Text := do
  match command with
  | .help => return registry.help
  | .status =>
    let desk ← Script.desk number
    return ("Status:\n  List: " ++ desk.listId ++ "\n  Agent: " ++ desk.agentName ++
      "\n  Data dir: " ++ desk.settings.dataFolder.text)
  | .use => runUse number arguments
  | .list => runList number arguments
  | .get =>
    match arguments with
    | [] => return "Usage: /get <task_id>"
    | taskId :: _ =>
      replyWithTask number "get" [("task_id", .string taskId)] fun task =>
        if task.description = "" then task.line else task.line ++ "\n  " ++ task.description
  | .create =>
    let (subject, description) := subjectAndDescription arguments
    if subject = "" then return "Usage: /create <subject> [| description]"
    else
      replyWithTask number "create"
        [("subject", .string subject), ("description", .string description)]
        fun task => "Created " ++ task.line
  | .claim =>
    match arguments with
    | [] => return "Usage: /claim <task_id> [owner]"
    | taskId :: rest =>
      let desk ← Script.desk number
      let owner := rest.headD desk.agentName
      replyWithTask number "claim" [("task_id", .string taskId), ("owner", .string owner)]
        fun task => "Claimed " ++ task.line
  | .done =>
    match arguments with
    | [] => return "Usage: /done <task_id>"
    | taskId :: _ =>
      replyWithTask number "update"
        [("task_id", .string taskId), ("status", .string Status.completed.word)]
        fun task => "Completed " ++ task.line
  | .block =>
    match arguments with
    | [] => return "Usage: /block <task_id> [dep_id ...]"
    | taskId :: rest =>
      replyWithTask number "update"
        [("task_id", .string taskId),
          ("blocked_by", .list ((dependencies rest).map Json.string))]
        fun task => "Updated " ++ task.line

/-- Replies to a line typed at a desk. -/
def reply (number : Nat) (line : Text) : Undertaking Job Report (Option Text) :=
  registry.handle (run number) line

end Command

end Taskboard
