import Taskboard.Proofs.Worker.Crew

/-!
# What a pass asks for, and when

A worker in a pass is free, or has claimed a task, or has had it handled. It asks for a listing or for a claim
only when it is free; once it has claimed a task it hands that task to its handler and does nothing else
before; once the task is handled it may set its status, and is free then. `Works` says this of a script,
whatever the answers and reports are, and keeps count of the tasks that were set to completed; every pass
obeys it, and returns what was counted.
-/

namespace Taskboard

open Disk

/-- What a worker has in hand. -/
inductive Phase where
  /-- Nothing. -/
  | free
  /-- A task that it claimed and that is not handled yet. -/
  | holding (task : Task)
  /-- A task that was handled and has the status of a claimed one still. -/
  | handled (task : Task)

/-- The task that a worker has in hand. -/
def Phase.task? : Phase → Option Task
  | .free => none
  | .holding task | .handled task => some task

/-- Where a worker stands in a pass. -/
structure Standing where
  /-- What it has in hand. -/
  phase : Phase
  /-- The tasks that it has set to completed in this pass, as far as the store confirmed it. -/
  finished : List Text

namespace Standing

/-- Where a pass starts. -/
def fresh : Standing := ⟨.free, []⟩

/-- Whether a worker may ask for an operation. -/
def May (standing : Standing) (owner : Text) : Operation → Prop
  | .list _ => standing.phase = .free
  | .claim _ claimant => standing.phase = .free ∧ claimant = owner
  | .update taskId change =>
    (∃ task, standing.phase = .handled task ∧ task.id = taskId) ∧
      ∃ status, change = .toStatus status ∧ status ≠ .inProgress
  | _ => False

/-- A worker asks for nothing while a claimed task waits for its handler. -/
theorem May.not_holding {standing : Standing} {owner : Text} {operation : Operation}
    (may : standing.May owner operation) (task : Task) : standing.phase ≠ .holding task := by
  intro holding
  cases operation with
  | create subject description => exact may
  | get taskId => exact may
  | list status => cases holding.symm.trans may
  | claim taskId claimant => cases holding.symm.trans may.1
  | update taskId change =>
    obtain ⟨⟨other, handled, -⟩, -⟩ := may
    cases holding.symm.trans handled

/-- Where a worker stands after an answer. -/
def after (standing : Standing) :
    (operation : Operation) → Except Failure operation.Answer → Standing
  | .claim .., .ok task => ⟨.holding task, standing.finished⟩
  | .update taskId change, .ok _ =>
    ⟨.free, if change.status = some .completed then standing.finished ++ [taskId]
      else standing.finished⟩
  | .update .., .error _ => ⟨.free, standing.finished⟩
  | _, _ => standing

end Standing

namespace Crew

variable {Job Report Finding α β : Type}

/-- Whether a script does what a worker may do, from where it stands, and ends as it should. -/
def Works (crew : Crew Job Report Finding) (number : Nat) (ends : α → Standing → Prop) :
    Standing → Script Task (HandlerEnd × Finding) α → Prop
  | standing, .done result => ends result standing
  | standing, .instant effect next =>
    (∀ task, standing.phase ≠ .holding task) ∧ crew.Quiet effect ∧
      ∀ workspace, crew.Works number ends standing (next workspace)
  | standing, .ask desk listId operation next =>
    desk = crew.desk ∧ listId = crew.listId ∧ standing.May (crew.owner number) operation ∧
      ∀ answer, crew.Works number ends (standing.after operation answer) (next answer)
  | _, .pause _ => False
  | standing, .handOut jobs next =>
    ∃ task, jobs = [task] ∧ standing.phase = .holding task ∧
      ∀ report, crew.Works number ends ⟨.handled task, standing.finished⟩ (next [report])

/-- Where a worker stands at the end of an effort: as it should, or, if it was interrupted, anywhere but
before the handling of a task. -/
def Ends (ends : α → Standing → Prop) : Except Interruption α → Standing → Prop
  | .ok result, standing => ends result standing
  | .error _, standing => ∀ task, standing.phase ≠ .holding task

variable {crew : Crew Job Report Finding} {number : Nat} {standing : Standing}

/-- Scripts one after the other: the second goes on where the first ends. -/
theorem Works.bind {between : α → Standing → Prop} {ends : β → Standing → Prop}
    {script : Script Task (HandlerEnd × Finding) α}
    {next : α → Script Task (HandlerEnd × Finding) β} (first : crew.Works number between standing script)
    (second : ∀ result reached, between result reached → crew.Works number ends reached (next result)) :
    crew.Works number ends standing (script.bind next) := by
  induction script generalizing standing with
  | done result => exact second result standing first
  | instant effect rest ih =>
    exact ⟨first.1, first.2.1, fun workspace => ih workspace (first.2.2 workspace)⟩
  | ask desk listId operation rest ih =>
    obtain ⟨here, own, may, first⟩ := first
    exact ⟨here, own, may, fun answer => ih answer (first answer)⟩
  | pause rest ih => exact first.elim
  | handOut jobs rest ih =>
    obtain ⟨task, one, holding, first⟩ := first
    exact ⟨task, one, holding, fun report => ih [report] (first report)⟩

/-- Whether an effort does what a worker may do. -/
def Toils (crew : Crew Job Report Finding) (number : Nat) (ends : α → Standing → Prop)
    (standing : Standing) (effort : Effort Task (HandlerEnd × Finding) α) : Prop :=
  crew.Works number (Ends ends) standing effort.run

/-- Efforts one after the other. -/
theorem Toils.bind {between : α → Standing → Prop} {ends : β → Standing → Prop}
    {effort : Effort Task (HandlerEnd × Finding) α}
    {next : α → Effort Task (HandlerEnd × Finding) β}
    (first : crew.Toils number between standing effort)
    (second : ∀ result reached, between result reached → crew.Toils number ends reached (next result)) :
    crew.Toils number ends standing (effort >>= next) := by
  rw [Toils, Effort.run_bind]
  refine Works.bind first fun result reached ended => ?_
  cases result with
  | ok result => exact second result reached ended
  | error interruption => exact ended

/-- Whether what is left of a pass does what a worker may do, and returns the tasks that were set to completed
in the whole pass. -/
def Obeys (crew : Crew Job Report Finding) (number : Nat) (standing : Standing)
    (script : Passing Finding) : Prop :=
  crew.Works number (Ends fun tally reached => reached = ⟨.free, tally.completed⟩) standing script

/-- An effort may end where it should. -/
theorem toils_pure {ends : α → Standing → Prop} {result : α} (ended : ends result standing) :
    crew.Toils number ends standing (pure result) := ended

/-- It may be interrupted unless a claimed task waits for its handler. -/
theorem toils_throw {ends : α → Standing → Prop} (interruption : Interruption)
    (idle : ∀ task, standing.phase ≠ .holding task) :
    crew.Toils number ends standing (throw interruption) := idle

/-- Noting an entry is quiet. -/
theorem quiet_note (crew : Crew Job Report Finding) (entry : Entry) :
    crew.Quiet fun workspace => (workspace.note entry).2 where
  present workspace h := by
    show crew.desk < (workspace.record [entry]).desks.length
    rwa [Workspace.desks_record]
  store workspace :=
    congrArg Desk.store (Workspace.desk_congr (workspace.desks_record [entry]) crew.desk)
  file workspace path _ := by
    show Leaves path workspace.disk (workspace.record [entry]).disk
    rw [Workspace.disk_record]
    exact .refl path _

/-- An entry can be noted unless a claimed task waits for its handler. -/
theorem toils_note (entry : Entry) (idle : ∀ task, standing.phase ≠ .holding task) :
    crew.Toils number (fun _ reached => reached = standing) standing (Worker.note entry) := by
  refine ⟨idle, crew.quiet_note entry, fun workspace => ?_⟩
  show crew.Works number (Ends _) standing (.done ((workspace.note entry).1.mapError _))
  cases (workspace.note entry).1 with
  | ok done => rfl
  | error failure => exact idle

section

variable [Inhabited Finding] (limit : Quantity) {finished : List Text}

/-- An operation that a worker may ask for leads where its answer leads. -/
theorem toils_ask {operation : Operation} (may : standing.May (crew.owner number) operation) :
    crew.Toils number (fun answer reached => reached = standing.after operation answer) standing
      ((crew.worker number limit).handingOut.ask operation) :=
  ⟨rfl, rfl, may, fun _ => rfl⟩

/-- A worker that is free does not hold a task. -/
theorem not_holding_of_free (finished : List Text) (task : Task) :
    (⟨.free, finished⟩ : Standing).phase ≠ .holding task := nofun

/-- Setting the status of a handled task makes the worker free; a task that is set to completed counts if
that was saved. -/
theorem toils_setStatus (task : Task) {status : Status} (settled : status ≠ .inProgress) (what : Text) :
    crew.Toils number
      (fun saved reached => reached =
        ⟨.free, if saved = true ∧ status = .completed then finished ++ [task.id] else finished⟩)
      ⟨.handled task, finished⟩
      ((crew.worker number limit).handingOut.setStatus task.id status what) := by
  have may : Standing.May ⟨.handled task, finished⟩ (crew.owner number)
      (.update task.id (.toStatus status)) := ⟨⟨task, rfl, rfl⟩, status, rfl, settled⟩
  refine Toils.bind (toils_ask limit may) ?_
  rintro answer _ rfl
  cases answer with
  | ok saved =>
    refine toils_pure ?_
    simp [Standing.after, Change.toStatus]
  | error failure =>
    dsimp only
    split
    · refine Toils.bind (toils_note _ (not_holding_of_free finished)) ?_
      rintro _ _ rfl
      refine toils_pure ?_
      simp [Standing.after]
    · exact toils_throw _ (not_holding_of_free finished)

/-- A task whose handler returned counts if it was set to completed and that was saved. -/
theorem toils_complete (task : Task) :
    crew.Toils number
      (fun saved reached => reached = ⟨.free, if saved = true then finished ++ [task.id] else finished⟩)
      ⟨.handled task, finished⟩ ((crew.worker number limit).handingOut.complete task.id) := by
  refine Toils.bind (toils_setStatus limit task (by decide) _) ?_
  rintro saved _ rfl
  cases saved with
  | false => exact toils_pure rfl
  | true =>
    refine Toils.bind (toils_note _ (not_holding_of_free _)) ?_
    rintro _ _ rfl
    exact toils_pure rfl

/-- A task whose handler failed does not count. -/
theorem toils_release (task : Task) :
    crew.Toils number (fun _ reached => reached = ⟨.free, finished⟩) ⟨.handled task, finished⟩
      ((crew.worker number limit).handingOut.release task.id) := by
  refine Toils.bind (toils_note _ nofun) ?_
  rintro _ _ rfl
  refine Toils.bind (toils_setStatus limit task (by decide) _) ?_
  rintro saved _ rfl
  refine toils_pure ?_
  simp

/-- What a worker with a claimed task returns is what it has set to completed. -/
theorem toils_work (task : Task) :
    crew.Toils number (fun tally reached => reached = ⟨.free, finished ++ tally.completed⟩)
      ⟨.holding task, finished⟩ ((crew.worker number limit).handingOut.work task) := by
  have handled : crew.Toils number (fun _ reached => reached = ⟨.handled task, finished⟩)
      ⟨.holding task, finished⟩ (.lift ((crew.worker number limit).handingOut.handler task)) :=
    ⟨task, rfl, rfl, fun _ => rfl⟩
  refine Toils.bind handled ?_
  rintro ⟨handlerEnd, finding⟩ _ rfl
  cases handlerEnd with
  | cancelled => exact toils_throw _ nofun
  | raised =>
    refine Toils.bind (toils_release limit task) ?_
    rintro _ _ rfl
    refine toils_pure ?_
    rw [List.append_nil]
  | returned =>
    refine Toils.bind (toils_complete limit task) ?_
    rintro saved _ rfl
    refine toils_pure ?_
    cases saved <;> simp

/-- A worker that is free tries to claim a task. -/
theorem toils_attempt (taskId : Text) :
    crew.Toils number (fun tally reached => reached = ⟨.free, finished ++ tally.completed⟩)
      ⟨.free, finished⟩ ((crew.worker number limit).handingOut.attempt taskId) := by
  have may : Standing.May ⟨.free, finished⟩ (crew.owner number) (.claim taskId (crew.owner number)) :=
    ⟨rfl, rfl⟩
  have skipped (entry : Entry) : crew.Toils number
      (fun tally reached => reached = ⟨.free, finished ++ tally.completed⟩) ⟨.free, finished⟩
      (do Worker.note entry; return (.empty : Tally Finding)) := by
    refine Toils.bind (toils_note entry (not_holding_of_free finished)) ?_
    rintro _ _ rfl
    refine toils_pure ?_
    simp [Tally.empty]
  refine Toils.bind (toils_ask limit may) ?_
  rintro answer _ rfl
  cases answer with
  | ok task => exact toils_work limit task
  | error failure =>
    dsimp only
    split
    iterate 3 exact skipped _
    · split
      · exact skipped _
      · exact toils_throw _ (not_holding_of_free finished)

/-- So it does with all candidates. -/
theorem toils_attemptAll (candidates : List Task) :
    crew.Toils number (fun tally reached => reached = ⟨.free, finished ++ tally.completed⟩)
      ⟨.free, finished⟩ ((crew.worker number limit).handingOut.attemptAll candidates) := by
  induction candidates generalizing finished with
  | nil =>
    refine toils_pure ?_
    simp [Tally.empty]
  | cons candidate rest ih =>
    refine Toils.bind (toils_attempt limit candidate.id) ?_
    rintro first _ rfl
    refine Toils.bind ih ?_
    rintro others _ rfl
    refine toils_pure ?_
    simp [Tally.append]

/-- Every pass does what a worker may do; it returns the tasks that it has set to completed. -/
theorem obeys_pass : crew.Obeys number .fresh (crew.worker number limit).handingOut.pass.run := by
  have may : Standing.May .fresh (crew.owner number) (.list (some .pending)) := rfl
  have tried (candidates : List Task) :
      crew.Toils number (fun tally reached => reached = ⟨.free, [] ++ tally.completed⟩) ⟨.free, []⟩
        ((crew.worker number limit).handingOut.attemptAll candidates) :=
    toils_attemptAll limit candidates
  refine Toils.bind (toils_ask limit may) ?_
  rintro answer _ rfl
  cases answer with
  | ok pending =>
    dsimp only
    split
    · exact tried _
    · exact toils_throw _ (not_holding_of_free [])
  | error failure =>
    dsimp only
    split
    · refine Toils.bind (toils_note _ (not_holding_of_free [])) ?_
      rintro _ _ rfl
      exact toils_pure rfl
    · exact toils_throw _ (not_holding_of_free [])

end

end Crew

end Taskboard
