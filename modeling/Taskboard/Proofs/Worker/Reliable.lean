import Taskboard.Proofs.Tool.Failures
import Taskboard.Proofs.Worker.Crew

/-!
# Passes that keep an invariant

Once the pending tasks are listed, a pass notes entries, claims tasks, sets their statuses and hands them to its
handler. What is kept by each of these holds to its end. Where a worker is never answered with a failure that nobody
expects but in ways that are taken for usual, its pass is only interrupted in such ways, unless the listing fails.
-/

namespace Taskboard

namespace Effort

variable {Job Report α β : Type} {perform : Job → Workspace → Report × Workspace} {invariant : Workspace → Prop}
  {usual : Interruption → Prop}

/-- Whether an effort keeps an invariant and is only interrupted in usual ways. -/
def Reliable (perform : Job → Workspace → Report × Workspace) (invariant : Workspace → Prop)
    (usual : Interruption → Prop) (ends : α → Prop) (effort : Effort Job Report α) : Prop :=
  ∀ workspace, invariant workspace →
    invariant (Script.run perform effort.run workspace).2 ∧
      match (Script.run perform effort.run workspace).1 with
      | .ok result => ends result
      | .error interruption => usual interruption

/-- Efforts one after the other. -/
theorem Reliable.bind {between : α → Prop} {ends : β → Prop} {first : Effort Job Report α}
    {next : α → Effort Job Report β} (reliable : Reliable perform invariant usual between first)
    (goesOn : ∀ result, between result → Reliable perform invariant usual ends (next result)) :
    Reliable perform invariant usual ends (first >>= next) := by
  intro workspace holds
  obtain ⟨holds, ended⟩ := reliable workspace holds
  rw [run_bind, Script.run_bind]
  generalize Script.run perform first.run workspace = reached at holds ended
  obtain ⟨result, after⟩ := reached
  cases result with
  | ok result => exact goesOn result ended after holds
  | error interruption => exact ⟨holds, ended⟩

/-- An effort that has its result. -/
theorem reliable_pure {ends : α → Prop} {result : α} (ended : ends result) :
    Reliable perform invariant usual ends (pure result) := fun _ holds => ⟨holds, ended⟩

/-- An effort that is interrupted in a usual way. -/
theorem reliable_throw {ends : α → Prop} {interruption : Interruption} (fine : usual interruption) :
    Reliable perform invariant usual ends (throw interruption : Effort Job Report α) := fun _ holds => ⟨holds, fine⟩

/-- An entry is noted where the clock can date it. -/
theorem run_note (entry : Entry) {workspace : Workspace} (dated : Store.dated workspace.host) :
    Script.run perform (Worker.note entry : Effort Job Report Unit).run workspace =
      (.ok (), workspace.record [entry]) := by
  show (Except.mapError _ (workspace.host.notingAll [entry]), workspace.record [entry]) = _
  rw [Store.notingAll_of_dated dated]
  rfl

end Effort

namespace Worker

open Effort

variable {Job Report Finding : Type}

/-- What a worker asks for once the pending tasks are listed. -/
inductive Asks (worker : Worker Job Report Finding) : Operation → Prop where
  /-- A task for its owner. -/
  | claim (taskId : Text) : Asks worker (.claim taskId worker.owner)
  /-- A new status. -/
  | settle (taskId : Text) (status : Status) : Asks worker (.update taskId (.toStatus status))

/-- Whether handlers keep an invariant. -/
def Steady (perform : Job → Workspace → Report × Workspace) (invariant : Workspace → Prop)
    (worker : Worker Job Report Finding) : Prop :=
  ∀ task workspace, invariant workspace → invariant (Script.run perform (worker.handler task) workspace).2

/-- What makes a pass keep an invariant and be interrupted only in usual ways. -/
structure Grounds (perform : Job → Workspace → Report × Workspace) (invariant : Workspace → Prop)
    (usual : Interruption → Prop) (worker : Worker Job Report Finding) : Prop where
  /-- The clock can date entries. -/
  dated {workspace : Workspace} (holds : invariant workspace) : Store.dated workspace.host
  /-- To note an entry keeps the invariant. -/
  noted {workspace : Workspace} (holds : invariant workspace) (entry : Entry) : invariant (workspace.record [entry])
  /-- So does whatever the worker asks for. -/
  asked {workspace : Workspace} (holds : invariant workspace) {operation : Operation} (asks : worker.Asks operation) :
    invariant (workspace.perform worker.desk worker.listId operation).2
  /-- It fails in expected or usual ways. -/
  fails {workspace : Workspace} (holds : invariant workspace) {operation : Operation} (asks : worker.Asks operation)
    {failure : Failure} (failed : (workspace.perform worker.desk worker.listId operation).1 = .error failure)
    (unexpected : failure.isExpected = false) : usual (.unexpected failure)
  /-- Handlers keep the invariant. -/
  steady : worker.Steady perform invariant
  /-- To be cancelled is usual. -/
  cancelled : usual .cancelled

variable {perform : Job → Workspace → Report × Workspace} {invariant : Workspace → Prop}
  {usual : Interruption → Prop} {worker : Worker Job Report Finding}

/-- What a worker asks for is done at its desk. -/
theorem run_ask (worker : Worker Job Report Finding) (operation : Operation) (workspace : Workspace) :
    Script.run perform (worker.ask operation).run workspace =
      (.ok (workspace.perform worker.desk worker.listId operation).1,
        (workspace.perform worker.desk worker.listId operation).2) := rfl

namespace Grounds

/-- Noting an entry. -/
theorem note (grounds : Grounds perform invariant usual worker) (entry : Entry) :
    Reliable perform invariant usual (fun _ => True) (Worker.note entry) := by
  intro workspace holds
  rw [run_note entry (grounds.dated holds)]
  exact ⟨grounds.noted holds entry, trivial⟩

/-- What has its result once an entry was noted. -/
theorem noteThen {α : Type} {ends : α → Prop} (grounds : Grounds perform invariant usual worker) (entry : Entry)
    {result : α} (ended : ends result) :
    Reliable perform invariant usual ends (do Worker.note entry; return result) :=
  (grounds.note entry).bind fun _ _ => reliable_pure ended

/-- Asking for something. -/
theorem ask (grounds : Grounds perform invariant usual worker) {operation : Operation} (asks : worker.Asks operation) :
    Reliable perform invariant usual
      (fun answer => ∀ failure, answer = .error failure → failure.isExpected = false → usual (.unexpected failure))
      (worker.ask operation) := by
  intro workspace holds
  rw [run_ask]
  exact ⟨grounds.asked holds asks, fun failure failed => grounds.fails holds asks failed⟩

/-- Setting a status. -/
theorem setStatus (grounds : Grounds perform invariant usual worker) (taskId : Text) (status : Status) (what : Text) :
    Reliable perform invariant usual (fun _ => True) (worker.setStatus taskId status what) := by
  refine (grounds.ask (.settle taskId status)).bind fun answer fails => ?_
  cases answer with
  | ok task => exact reliable_pure trivial
  | error failure =>
    dsimp only
    cases isExpected : failure.isExpected with
    | true => exact grounds.noteThen _ trivial
    | false => exact reliable_throw (fails failure rfl isExpected)

/-- Setting a handled task to completed. -/
theorem complete (grounds : Grounds perform invariant usual worker) (taskId : Text) :
    Reliable perform invariant usual (fun _ => True) (worker.complete taskId) := by
  refine (grounds.setStatus taskId .completed _).bind fun saved _ => ?_
  cases saved with
  | false => exact reliable_pure trivial
  | true => exact grounds.noteThen _ trivial

/-- Setting a handled task back to pending. -/
theorem release (grounds : Grounds perform invariant usual worker) (taskId : Text) :
    Reliable perform invariant usual (fun _ => True) (worker.release taskId) := by
  refine (grounds.note _).bind fun _ _ => ?_
  exact (grounds.setStatus taskId .pending _).bind fun _ _ => reliable_pure trivial

/-- Handling a claimed task and settling its status. -/
theorem work (grounds : Grounds perform invariant usual worker) (task : Task) :
    Reliable perform invariant usual (fun _ => True) (worker.work task) := by
  have handles : Reliable perform invariant usual (fun _ => True) (.lift (worker.handler task)) := by
    intro workspace holds
    have ran : Script.run perform (ExceptT.lift (worker.handler task) : Effort Job Report _).run workspace =
        (.ok (Script.run perform (worker.handler task) workspace).1,
          (Script.run perform (worker.handler task) workspace).2) := Script.run_bind _ _ _ _
    rw [ran]
    exact ⟨grounds.steady task workspace holds, trivial⟩
  refine handles.bind fun (handlerEnd, finding) _ => ?_
  cases handlerEnd with
  | cancelled => exact reliable_throw grounds.cancelled
  | raised => exact (grounds.release task.id).bind fun _ _ => reliable_pure trivial
  | returned => exact (grounds.complete task.id).bind fun _ _ => reliable_pure trivial

/-- Trying to claim a task. -/
theorem attempt (grounds : Grounds perform invariant usual worker) (taskId : Text) :
    Reliable perform invariant usual (fun _ => True) (worker.attempt taskId) := by
  refine (grounds.ask (.claim taskId)).bind fun answer fails => ?_
  cases answer with
  | ok task => exact grounds.work task
  | error failure =>
    dsimp only
    split
    iterate 3 exact grounds.noteThen _ trivial
    cases isExpected : failure.isExpected with
    | true => exact grounds.noteThen _ trivial
    | false => exact reliable_throw (fails failure rfl isExpected)

/-- Going through all candidates. -/
theorem attemptAll (grounds : Grounds perform invariant usual worker) (candidates : List Task) :
    Reliable perform invariant usual (fun _ => True) (worker.attemptAll candidates) := by
  induction candidates with
  | nil => exact reliable_pure trivial
  | cons candidate rest ih =>
    exact (grounds.attempt candidate.id).bind fun _ _ => ih.bind fun _ _ => reliable_pure trivial

/-- A pass is taken down by a failure that is not usual exactly if the pending tasks cannot be listed for it. -/
theorem pass_unexpected_iff (grounds : Grounds perform invariant usual worker) {workspace : Workspace} {limit : Int}
    {failure : Failure} (present : worker.desk < workspace.desks.length) (dated : Store.dated workspace.host)
    (limited : worker.batchLimit.toInt = .ok limit) (unusual : ¬ usual (.unexpected failure))
    (begun : ∀ pending, (workspace.perform worker.desk worker.listId (.list (some .pending))).1 = .ok pending →
      invariant (workspace.perform worker.desk worker.listId (.list (some .pending))).2) :
    (Script.run perform worker.pass.run workspace).1 = .error (.unexpected failure) ↔
      (workspace.perform worker.desk worker.listId (.list (some .pending))).1 = .error failure ∧
        failure.isExpected = false := by
  have carries := Workspace.carries_perform present worker.listId (.list (some .pending))
  have datedAfter : Store.dated (workspace.perform worker.desk worker.listId (.list (some .pending))).2.host := by
    rw [carries.host]
    exact dated
  rw [pass, Effort.run_bind, Script.run_bind, run_ask]
  generalize workspace.perform worker.desk worker.listId (.list (some .pending)) = performed at datedAfter begun
  obtain ⟨answer, after⟩ := performed
  cases answer with
  | ok pending =>
    dsimp only
    rw [limited]
    have ended := (grounds.attemptAll (pending.take limit.toNat) after (begun pending rfl)).2
    constructor
    · intro interrupted
      change (Script.run perform (worker.attemptAll (pending.take limit.toNat)).run after).1 = _ at interrupted
      rw [interrupted] at ended
      exact absurd ended unusual
    · rintro ⟨failed, -⟩
      cases failed
  | error why =>
    dsimp only
    cases expected : why.isExpected with
    | true =>
      rw [if_pos rfl, Effort.run_bind, Script.run_bind, run_note _ datedAfter]
      constructor
      · intro interrupted
        cases interrupted
      · rintro ⟨failed, unexpected⟩
        cases failed
        cases expected.symm.trans unexpected
    | false =>
      rw [if_neg Bool.false_ne_true]
      constructor
      · intro interrupted
        cases interrupted
        exact ⟨rfl, expected⟩
      · rintro ⟨failed, -⟩
        cases failed
        rfl

end Grounds

end Worker

end Taskboard
