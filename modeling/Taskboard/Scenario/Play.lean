import Taskboard.Scenario.Step
import Taskboard.Schedule

/-!
# Playing a scenario

Every step is a script, so that steps can be taken one after another or together; steps that are taken
together are the jobs that a step hands out. A scenario is played from the workspace in which the given
files stand in the data folder; it reports what each step comes to and the log entries that the step
leaves.
-/

namespace Taskboard

namespace Workspace

/-- Changes the disk. -/
def onDisk (workspace : Workspace) (change : Disk → Disk.Result) :
    Except Failure Unit × Workspace :=
  let changed := change workspace.disk
  let result := match changed.fault with | some fault => .error (.disk fault) | none => .ok ()
  (result, { workspace with disk := changed.disk })

/-- Writes a file with the folders above it. -/
def writeFile (workspace : Workspace) (path : Path) (bytes : List UInt8) :
    Except Failure Unit × Workspace :=
  workspace.onDisk (·.performAll [.ensureFolders path.parent, .write path bytes])

/-- What stands at a path; a path with too long a name cannot be followed. -/
def standing (workspace : Workspace) (path : Path) : Except Failure (Option Node) :=
  match workspace.disk.locate path with
  | .error .nameTooLong => .error (.disk ⟨.nameTooLong, path, none⟩)
  | .error _ => .ok none
  | .ok place => .ok (workspace.disk.node? place)

end Workspace

namespace Scenario

/-- What a step does until it comes to its outcome; its jobs are steps. -/
abbrev Conduct (α : Type) := Script Step Outcome α

/-- The number of the desk with a name. -/
def atDesk (settings : Settings) (name : Text) : Undertaking Step Outcome Nat :=
  Script.attempt (·.deskNamed name settings)

/-- A worker at a desk that takes the given steps while it handles a task. -/
def workerAt (number : Nat) (assignment : Assignment)
    (during : List (Text × Conduct (List Outcome))) :
    Worker Step Outcome (Task × Option (List Outcome)) where
  desk := number
  listId := assignment.listId
  owner := assignment.owner
  batchLimit := assignment.batchLimit
  handler task := do
    let handlerEnd := if assignment.failing.contains task.id then .raised else .returned
    match Entries.find? task.id during with
    | none => return (handlerEnd, task, none)
    | some script =>
      let outcomes ← script
      return (handlerEnd, task, some outcomes)

mutual

/-- What is done in a step. -/
def Step.undertaking (settings : Settings) : Step → Undertaking Step Outcome Reply
  | .setClock clock => do
    Script.change fun workspace => { workspace with clock }
    return .nothing
  | .write path bytes => do
    Script.attempt (·.writeFile (settings.dataFolder.join path) bytes)
    return .nothing
  | .read path => do
    let workspace ← Script.look
    return .standing (← workspace.standing (settings.dataFolder.join path))
  | .makeFolder path => do
    Script.attempt (·.onDisk (·.ensureFolders (settings.dataFolder.join path)))
    return .nothing
  | .remove path => do
    Script.attempt (·.onDisk (·.remove (settings.dataFolder.join path)))
    return .nothing
  | .refuseSaves words => do
    Script.change fun workspace => { workspace with breakdown := words.map .atOnce }
    return .nothing
  | .renew desk defaultListId => do
    let number ← Script.attempt (·.renewDesk desk settings)
    if let some listId := defaultListId then Script.attempt (·.renewStore number listId)
    return .nothing
  | .call desk parameters => do
    let number ← atDesk settings desk
    let parameters ← parameters
    return .toolAnswer (← Tool.execute number parameters)
  | .command desk line => do
    let number ← atDesk settings desk
    return .text (← Command.reply number line)
  | .filePath desk listId => do
    let number ← atDesk settings desk
    let desk ← Script.desk number
    let path ← desk.store.filePath listId
    return .text (some path.text)
  | .ask desk listId operation => do
    let number ← atDesk settings desk
    let operation ← operation
    return .answer operation (← Script.request number listId operation)
  | .deface desk listId taskId => do
    let number ← atDesk settings desk
    let found : Option Task ← Script.request number listId (.get taskId)
    match found with
    | none => throw (.noMember Json.null.kind "subject")
    | some _ => return .answer (.get taskId) (← Script.request number listId (.get taskId))
  | .together desk steps => do
    let _ ← atDesk settings desk
    return .all (← Script.together steps)
  | .pass desk assignment during => do
    let during := duringScripts settings during
    let number ← atDesk settings desk
    match ← (workerAt number assignment during).pass.run with
    | .ok tally => return .passed tally.completed tally.findings
    | .error (.unexpected failure) => throw failure
    | .error .cancelled => return .passed [] []
  | .worker desk assignment interval during between => do
    let during := duringScripts settings during
    let between := betweenScripts settings between
    let number ← atDesk settings desk
    let career ← (workerAt number assignment during).employ interval between
    match career.interruption with
    | .cancelled =>
      return .cancelled career.sleep (career.between.length + 1) career.tally.findings
        career.between
    | .unexpected failure => throw failure
  | .talk desk events => do
    let number ← atDesk settings desk
    return .transcript (← Console.run number events)

/-- The script of steps that are taken one after another. -/
def inOrder (settings : Settings) : List Step → Conduct (List Outcome)
  | [] => .done []
  | step :: rest => do
    let outcome ← (step.undertaking settings).run
    return outcome :: (← inOrder settings rest)

/-- The scripts of the steps given for tasks. -/
def duringScripts (settings : Settings) :
    List (Text × List Step) → List (Text × Conduct (List Outcome))
  | [] => []
  | (taskId, steps) :: rest => (taskId, inOrder settings steps) :: duringScripts settings rest

/-- The scripts of the steps given for sleeps. -/
def betweenScripts (settings : Settings) : List (List Step) → List (Conduct (List Outcome))
  | [] => []
  | steps :: rest => inOrder settings steps :: betweenScripts settings rest

end

/-- The script of a step. -/
def Step.script (settings : Settings) (step : Step) : Conduct Outcome :=
  (step.undertaking settings).run

/-- What one step of a scenario comes to. -/
structure Moment where
  /-- Reply or failure. -/
  outcome : Outcome
  /-- Entries that the step leaves in the log, in order. -/
  entries : List Entry

/-- Takes one step. -/
def moment (settings : Settings) (step : Step) (workspace : Workspace) : Moment × Workspace :=
  let (outcomes, after) :=
    Schedule.run (Step.script settings) [step.script settings] workspace.withNewLog
  (⟨outcomes.headD (.ok .nothing), after.entries.map Prod.snd⟩, after)

/-- Takes all steps. -/
def play (settings : Settings) : List Step → Workspace → List Moment × Workspace
  | [], workspace => ([], workspace)
  | step :: rest, workspace =>
    let (first, workspace) := moment settings step workspace
    let (others, workspace) := play settings rest workspace
    (first :: others, workspace)

/-- The workspace in which a scenario begins: files stand in the data folder, there is room for `spare`
containers more than a list has, and a log is kept or not. -/
def opening (settings : Settings) (clock : Clock) (files : List (Path × List UInt8)) (spare : Nat)
    (keepsLog : Bool) : Except Failure Workspace :=
  files.foldlM
    (fun workspace file =>
      match workspace.writeFile (settings.dataFolder.join file.1) file.2 with
      | (.ok (), workspace) => .ok workspace
      | (.error failure, _) => .error failure)
    (.start clock .empty spare keepsLog)

/-- Files and empty folders in the data folder of a workspace. -/
def files (settings : Settings) (workspace : Workspace) : List (Location × Node) :=
  match workspace.disk.locate settings.dataFolder with
  | .error _ => []
  | .ok place => workspace.disk.listing place

end Scenario

end Taskboard
