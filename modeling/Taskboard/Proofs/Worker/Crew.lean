import Mathlib.Logic.Function.Basic
import Taskboard.Proofs.Desk
import Taskboard.Worker

/-!
# A crew of workers

Any number of workers share one list behind one desk. Their passes, their handlers and the calls of other
clients advance in steps that come in any order: one operation of the store, or one change of the
workspace, at a time. So that it can be seen when a handler starts and ends, a pass hands its tasks out as
jobs instead of handling them; with the handler put back in the place of those jobs it is the pass of the
worker again.
-/

namespace Taskboard

open Disk

namespace Script

variable {Job Other Reply Report α β : Type}

/-- Does some jobs one after another, each by a script of its own, and collects the reports. -/
def inOrder (meaning : Job → Script Other Reply Report) : List Job → Script Other Reply (List Report)
  | [] => .done []
  | job :: rest =>
    (meaning job).bind fun report => (inOrder meaning rest).bind fun reports => .done (report :: reports)

/-- A script that does the jobs itself that it would hand out. -/
def fill (meaning : Job → Script Other Reply Report) : Script Job Report α → Script Other Reply α
  | .done result => .done result
  | .instant effect next => .instant effect fun workspace => (next workspace).fill meaning
  | .ask desk listId operation next => .ask desk listId operation fun answer =>
    (next answer).fill meaning
  | .pause next => .pause (next.fill meaning)
  | .handOut jobs next => (inOrder meaning jobs).bind fun reports => (next reports).fill meaning

/-- One step of a script: what is left to do, and the workspace then. A script that waits for jobs goes on
with the given reports. -/
def advance (reports : List Report) :
    Script Job Report α → Workspace → Script Job Report α × Workspace
  | .done result, workspace => (.done result, workspace)
  | .instant effect next, workspace => (next workspace, effect workspace)
  | .ask desk listId operation next, workspace =>
    let (answer, workspace) := workspace.perform desk listId operation
    (next answer, workspace)
  | .pause next, workspace => (next, workspace)
  | .handOut _ next, workspace => (next reports, workspace)

/-- Of two scripts one after the other, each does its own jobs. -/
theorem fill_bind (meaning : Job → Script Other Reply Report) (script : Script Job Report α)
    (f : α → Script Job Report β) :
    (script.bind f).fill meaning = (script.fill meaning).bind fun result => (f result).fill meaning := by
  induction script with
  | done result => rfl
  | instant effect next ih => simp only [bind, fill, ih]
  | ask desk listId operation next ih => simp only [bind, fill, ih]
  | pause next ih => simp only [bind, fill, ih]
  | handOut jobs next ih => simp only [bind, fill, ih, bind_assoc]

end Script

namespace Effort

variable {Job Other Reply Report α β : Type}

/-- An effort goes on where its first part ends, unless that part is interrupted. -/
theorem run_bind (first : Effort Job Report α) (next : α → Effort Job Report β) :
    (first >>= next).run = first.run.bind fun
      | .ok result => (next result).run
      | .error interruption => .done (.error interruption) := by
  refine congrArg first.run.bind (funext fun result => ?_)
  cases result <;> rfl

/-- Whether an effort is what another one becomes when it does its jobs itself. -/
def Fills (meaning : Job → Script Other Reply Report) (whole : Effort Other Reply α)
    (parts : Effort Job Report α) : Prop :=
  Script.fill meaning parts.run = whole.run

variable {meaning : Job → Script Other Reply Report}

/-- Efforts one after the other are filled one after the other. -/
theorem Fills.bind {whole : Effort Other Reply α} {parts : Effort Job Report α}
    {wholeNext : α → Effort Other Reply β} {partsNext : α → Effort Job Report β}
    (first : Fills meaning whole parts) (next : ∀ result, Fills meaning (wholeNext result) (partsNext result)) :
    Fills meaning (whole >>= wholeNext) (parts >>= partsNext) := by
  have first : Script.fill meaning parts.run = whole.run := first
  rw [Fills, run_bind, run_bind, Script.fill_bind, first]
  refine congrArg whole.run.bind (funext fun result => ?_)
  cases result with
  | error interruption => rfl
  | ok result => exact next result

end Effort

namespace Worker

variable {Job Report Finding : Type}

/-- A worker that hands its tasks out. -/
def handingOut [Inhabited Finding] (worker : Worker Job Report Finding) :
    Worker Task (HandlerEnd × Finding) Finding where
  desk := worker.desk
  listId := worker.listId
  owner := worker.owner
  batchLimit := worker.batchLimit
  handler task := .handOut [task] fun reports => .done (reports.headD default)

section

variable [Inhabited Finding] (worker : Worker Job Report Finding)

/-- Setting a status needs no handler. -/
theorem fills_setStatus (taskId : Text) (status : Status) (what : Text) :
    Effort.Fills worker.handler (worker.setStatus taskId status what)
      (worker.handingOut.setStatus taskId status what) := by
  refine Effort.Fills.bind rfl fun answer => ?_
  cases answer with
  | ok task => rfl
  | error failure =>
    dsimp only
    split
    · exact Effort.Fills.bind rfl fun _ => rfl
    · rfl

/-- Neither does completing a task. -/
theorem fills_complete (taskId : Text) :
    Effort.Fills worker.handler (worker.complete taskId) (worker.handingOut.complete taskId) := by
  refine Effort.Fills.bind (worker.fills_setStatus taskId .completed "complete") fun saved => ?_
  cases saved with
  | false => rfl
  | true => exact Effort.Fills.bind rfl fun _ => rfl

/-- Nor releasing one. -/
theorem fills_release (taskId : Text) :
    Effort.Fills worker.handler (worker.release taskId) (worker.handingOut.release taskId) := by
  refine Effort.Fills.bind rfl fun _ => ?_
  exact Effort.Fills.bind (worker.fills_setStatus taskId .pending "release") fun _ => rfl

/-- A task that is handed out and handled there is a task handled. -/
theorem fills_work (task : Task) :
    Effort.Fills worker.handler (worker.work task) (worker.handingOut.work task) := by
  have handled : Effort.Fills worker.handler (.lift (worker.handler task))
      (.lift (worker.handingOut.handler task)) :=
    Script.bind_assoc (worker.handler task) _ _
  refine Effort.Fills.bind handled fun (handlerEnd, finding) => ?_
  cases handlerEnd with
  | cancelled => rfl
  | raised => exact Effort.Fills.bind (worker.fills_release task.id) fun _ => rfl
  | returned => exact Effort.Fills.bind (worker.fills_complete task.id) fun _ => rfl

/-- A task is claimed without a handler. -/
theorem fills_attempt (taskId : Text) :
    Effort.Fills worker.handler (worker.attempt taskId) (worker.handingOut.attempt taskId) := by
  refine Effort.Fills.bind rfl fun answer => ?_
  cases answer with
  | ok task => exact worker.fills_work task
  | error failure =>
    dsimp only
    split
    iterate 3 exact Effort.Fills.bind rfl fun _ => rfl
    · split
      · exact Effort.Fills.bind rfl fun _ => rfl
      · rfl

/-- All candidates are attempted one after another. -/
theorem fills_attemptAll (candidates : List Task) :
    Effort.Fills worker.handler (worker.attemptAll candidates)
      (worker.handingOut.attemptAll candidates) := by
  induction candidates with
  | nil => rfl
  | cons candidate rest ih =>
    refine Effort.Fills.bind (worker.fills_attempt candidate.id) fun first => ?_
    exact Effort.Fills.bind ih fun others => rfl

/-- A pass that hands its tasks out is the pass of the worker once the handler does these jobs. -/
theorem fills_pass : Effort.Fills worker.handler worker.pass worker.handingOut.pass := by
  refine Effort.Fills.bind rfl fun answer => ?_
  cases answer with
  | ok pending =>
    dsimp only
    cases limited : worker.batchLimit.toInt with
    | error fault =>
      have same : worker.handingOut.batchLimit.toInt = .error fault := limited
      rw [same]
      rfl
    | ok limit =>
      have same : worker.handingOut.batchLimit.toInt = .ok limit := limited
      rw [same]
      exact worker.fills_attemptAll (pending.take limit.toNat)
  | error failure =>
    dsimp only
    split
    · exact Effort.Fills.bind rfl fun _ => rfl
    · rfl

end

end Worker

/-- Whether an operation may set the status of a task. -/
def Operation.setsStatus : Operation → Bool
  | .create .. | .list _ | .get _ => false
  | .update _ change => change.status.isSome
  | .claim .. => true

/-- Workers that share one list behind one desk, each with its number. -/
structure Crew (Job Report Finding : Type) where
  /-- Desk whose store they ask. -/
  desk : Nat
  /-- List they work on. -/
  listId : Text
  /-- Owner of the tasks that a worker claims. -/
  owner : Nat → Text
  /-- What doing the work means to a worker. -/
  handler : Nat → Task → Script Job Report (HandlerEnd × Finding)

/-- A pass that hands its tasks out. -/
abbrev Passing (Finding : Type) :=
  Script Task (HandlerEnd × Finding) (Except Interruption (Tally Finding))

/-- How far a worker has come. -/
inductive Stage (Job Report Finding : Type) where
  /-- It is between two passes. -/
  | off
  /-- It is in a pass, and no handler of it is running. -/
  | passing (script : Passing Finding)
  /-- Its handler is running for a task; the pass goes on when the handler ends. -/
  | handling (task : Task) (left : Script Job Report (HandlerEnd × Finding))
      (next : List (HandlerEnd × Finding) → Passing Finding)

/-- How far a crew has come. -/
structure Shift (Job Report Finding : Type) where
  /-- What all share. -/
  workspace : Workspace
  /-- How far each worker has come. -/
  stages : Nat → Stage Job Report Finding
  /-- The identifiers that passes have returned as completed, a list for each pass, in order. -/
  returned : List (List Text)

/-- What may happen next. -/
inductive Move (Report : Type) where
  /-- A worker that is between two passes starts one, with a greatest number of tasks. -/
  | start (number : Nat) (limit : Quantity)
  /-- A worker takes one step; if its handler waits for jobs, it is given reports. -/
  | go (number : Nat) (reports : List Report)
  /-- Somebody else asks the store for an operation. -/
  | client (listId : Text) (operation : Operation)
  /-- Something else changes the workspace: the time, the disk, whether saves are refused. -/
  | meanwhile (effect : Workspace → Workspace)

namespace Stage

variable {Job Report Finding : Type}

/-- The task for which a handler is running. -/
def handled? : Stage Job Report Finding → Option Task
  | .handling task _ _ => some task
  | _ => none

/-- The task for which a handler is running or about to start. -/
def assigned? : Stage Job Report Finding → Option Task
  | .handling task _ _ => some task
  | .passing (.handOut [task] _) => some task
  | _ => none

/-- A task that is handled is assigned. -/
theorem assigned_of_handled {stage : Stage Job Report Finding} {task : Task}
    (handled : stage.handled? = some task) : stage.assigned? = some task := by
  cases stage with
  | handling other left next => exact handled
  | off => cases handled
  | passing script => cases handled

end Stage

namespace Shift

variable {Job Report Finding : Type}

/-- A crew that has done nothing yet. -/
def idle (workspace : Workspace) : Shift Job Report Finding := ⟨workspace, fun _ => .off, []⟩

/-- Sets how far a worker has come. -/
def put (shift : Shift Job Report Finding) (number : Nat) (stage : Stage Job Report Finding) :
    Shift Job Report Finding :=
  { shift with stages := Function.update shift.stages number stage }

end Shift

namespace Crew

variable {Job Report Finding : Type}

/-- A worker of a crew in a pass with a greatest number of tasks. -/
def worker (crew : Crew Job Report Finding) (number : Nat) (limit : Quantity) :
    Worker Job Report Finding :=
  ⟨crew.desk, crew.listId, crew.owner number, limit, crew.handler number⟩

/-- The step of a worker. The first step towards a task that is handed out starts the handler; the step
after the last one of a handler goes on with the pass. -/
def go (crew : Crew Job Report Finding) (shift : Shift Job Report Finding) (number : Nat)
    (reports : List Report) : Shift Job Report Finding :=
  match shift.stages number with
  | .off => shift
  | .passing (.done (.ok tally)) =>
    { shift.put number .off with returned := shift.returned ++ [tally.completed] }
  | .passing (.done (.error _)) => shift.put number .off
  | .passing (.handOut [task] next) =>
    shift.put number (.handling task (crew.handler number task) next)
  | .passing script =>
    let (script, workspace) := script.advance [] shift.workspace
    { shift.put number (.passing script) with workspace }
  | .handling _ (.done report) next => shift.put number (.passing (next [report]))
  | .handling task left next =>
    let (left, workspace) := left.advance reports shift.workspace
    { shift.put number (.handling task left next) with workspace }

/-- What a move does. -/
def act [Inhabited Finding] (crew : Crew Job Report Finding) (shift : Shift Job Report Finding) :
    Move Report → Shift Job Report Finding
  | .start number limit =>
    match shift.stages number with
    | .off => shift.put number (.passing (crew.worker number limit).handingOut.pass.run)
    | _ => shift
  | .go number reports => crew.go shift number reports
  | .client listId operation =>
    { shift with workspace := (shift.workspace.perform crew.desk listId operation).2 }
  | .meanwhile effect => { shift with workspace := effect shift.workspace }

/-- What some moves do, one after the other. -/
def run [Inhabited Finding] (crew : Crew Job Report Finding) (shift : Shift Job Report Finding)
    (moves : List (Move Report)) : Shift Job Report Finding :=
  moves.foldl crew.act shift

/-- Whether a change of the workspace lets the store of a crew and the file of its list be. -/
structure Quiet (crew : Crew Job Report Finding) (effect : Workspace → Workspace) : Prop where
  /-- The desk stays. -/
  present : ∀ workspace, crew.desk < workspace.desks.length → crew.desk < (effect workspace).desks.length
  /-- The store behind it stays as it is. -/
  store : ∀ workspace, ((effect workspace).desk crew.desk).store = (workspace.desk crew.desk).store
  /-- The file stays as it is. -/
  file : ∀ workspace path, (workspace.desk crew.desk).store.filePath crew.listId = .ok path →
    Leaves path workspace.disk (effect workspace).disk

/-- Whether others may ask the store for an operation: on the list of the crew, one that sets no status. -/
def allows (crew : Crew Job Report Finding) (listId : Text) (operation : Operation) : Prop :=
  listId = crew.listId → operation.setsStatus = false

/-- Whether a handler sets no statuses: what it does is quiet or asks the store for what others may ask. -/
def Tame (crew : Crew Job Report Finding) : Script Job Report (HandlerEnd × Finding) → Prop
  | .done _ => True
  | .instant effect next => crew.Quiet effect ∧ ∀ workspace, crew.Tame (next workspace)
  | .ask desk listId operation next =>
    desk = crew.desk ∧ crew.allows listId operation ∧ ∀ answer, crew.Tame (next answer)
  | .pause next => crew.Tame next
  | .handOut _ next => ∀ reports, crew.Tame (next reports)

/-- Whether a move is one that workers and others may make: only workers set statuses. -/
def permits (crew : Crew Job Report Finding) : Move Report → Prop
  | .start _ _ | .go _ _ => True
  | .client listId operation => crew.allows listId operation
  | .meanwhile effect => crew.Quiet effect

end Crew

end Taskboard
