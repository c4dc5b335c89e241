import Taskboard.Proofs.Worker.Pass
import Taskboard.Proofs.Worker.Protocol
import Taskboard.Proofs.Worker.Board

/-!
# What a worker has finished is in the file

A worker counts a task as finished once the store has confirmed that it is completed. It is completed in the file
then, because what is saved is the list in memory, and it stays completed there: a save that fails leaves the file
as it is, and a save that succeeds replaces it by the list in memory, in which the task is completed still. So a
worker that has its list for itself leaves every task that it finished completed both in memory and in the file,
however later saves fail.
-/

namespace Taskboard

open Disk

namespace Crew

variable {Job Report Finding : Type} {crew : Crew Job Report Finding} {workspace after : Workspace} {key : Text}
  {status : Status} {operation : Operation}

/-- A task stands in the list that the file of a crew holds. -/
def Stored (crew : Crew Job Report Finding) (workspace : Workspace) (key : Text) (status : Status) : Prop :=
  ∃ path bytes list, (crew.store workspace).filePath crew.listId = .ok path ∧
    workspace.disk.read path = .ok bytes ∧
    TaskList.load (crew.store workspace).spare bytes = .ok list ∧ list.Stands key status

/-- It stands there while the file is spared. -/
theorem Stored.spared (stored : crew.Stored workspace key status)
    (spares : Workspace.Spares crew.desk crew.listId workspace after) : crew.Stored after key status := by
  obtain ⟨path, bytes, list, named, read, loaded⟩ := stored
  have same : crew.store after = crew.store workspace := spares.store
  refine ⟨path, bytes, list, ?_, (spares.file path named).readable bytes read, ?_⟩
  · rw [same]
    exact named
  · rw [same]
    exact loaded

/-- The path of the list does not change with an operation. -/
theorem Ready.filePath (ready : crew.Ready workspace) (operation : Operation) :
    (crew.store (workspace.perform crew.desk crew.listId operation).2).filePath crew.listId =
      (crew.store workspace).filePath crew.listId := by
  have course := Store.course_perform (crew.store workspace) crew.listId operation workspace.host
  rw [store, (ready.carries crew.listId operation).store, Store.filePath, Store.filePath, course.folder]

/-- Nor does the room that its documents have. -/
theorem Ready.spare (ready : crew.Ready workspace) (operation : Operation) :
    (crew.store (workspace.perform crew.desk crew.listId operation).2).spare = (crew.store workspace).spare := by
  have course := Store.course_perform (crew.store workspace) crew.listId operation workspace.host
  rw [store, (ready.carries crew.listId operation).store, course.spare]

/-- After a file was moved into place, it holds what is in memory. -/
theorem Ready.stored_of_moved (ready : crew.Ready workspace)
    (moved : ((crew.store workspace).perform crew.listId operation workspace.host).moved = true)
    (stands : crew.Stands (workspace.perform crew.desk crew.listId operation).2 key status) :
    crew.Stored (workspace.perform crew.desk crew.listId operation).2 key status := by
  have carries := ready.carries crew.listId operation
  have course := Store.course_perform (crew.store workspace) crew.listId operation workspace.host
  obtain ⟨path, list, bytes, named, held, read, loaded⟩ := course.load_of_moved ready.ahead moved
  obtain ⟨list', held', stands⟩ := stands
  rw [store, carries.store] at held'
  cases held.symm.trans held'
  refine ⟨path, bytes, list, ?_, ?_, ?_, stands⟩
  · rw [ready.filePath]
    exact named
  · rw [carries.disk]
    exact read
  · rw [ready.spare]
    exact loaded

/-- A task that stands somewhere in the file, and in memory after an operation, stands there in the file then. -/
theorem Stored.perform (stored : crew.Stored workspace key status) (ready : crew.Ready workspace)
    (stands : crew.Stands (workspace.perform crew.desk crew.listId operation).2 key status) :
    crew.Stored (workspace.perform crew.desk crew.listId operation).2 key status := by
  cases moved : ((crew.store workspace).perform crew.listId operation workspace.host).moved with
  | true => exact ready.stored_of_moved moved stands
  | false =>
    have course := Store.course_perform (crew.store workspace) crew.listId operation workspace.host
    obtain ⟨path, bytes, list, named, read, loaded, stood⟩ := stored
    refine ⟨path, bytes, list, ?_, ?_, ?_, stood⟩
    · rw [ready.filePath]
      exact named
    · rw [(ready.carries crew.listId operation).disk]
      exact (course.leaves_of_not_moved moved named).readable bytes read
    · rw [ready.spare]
      exact loaded

/-- A change that is answered was saved: what is in memory is in the file. -/
theorem Ready.stored_of_answered (ready : crew.Ready workspace) (change : operation.isChange = true)
    {answer : operation.Answer} (answered : (workspace.perform crew.desk crew.listId operation).1 = .ok answer)
    (stands : crew.Stands (workspace.perform crew.desk crew.listId operation).2 key status) :
    crew.Stored (workspace.perform crew.desk crew.listId operation).2 key status := by
  have course := Store.course_perform (crew.store workspace) crew.listId operation workspace.host
  have result := (ready.carries crew.listId operation).result.symm.trans answered
  exact ready.stored_of_moved (course.moved_of_ok change result) stands

/-- What a worker keeps in a pass: the tasks that it has finished are completed in memory and in the file, and the
task that it has in hand is in progress. -/
structure Keeps (crew : Crew Job Report Finding) (workspace : Workspace) (standing : Standing) : Prop where
  /-- The crew can work. -/
  ready : crew.Ready workspace
  /-- What is finished is completed. -/
  finished : ∀ key ∈ standing.finished,
    crew.Stands workspace key .completed ∧ crew.Stored workspace key .completed
  /-- What is in hand is in progress. -/
  inHand : ∀ task, standing.phase.task? = some task → crew.Stands workspace task.id .inProgress

variable {standing : Standing} {number : Nat}

namespace Keeps

/-- It keeps them while its store and its file are spared. -/
theorem spared (keeps : crew.Keeps workspace standing)
    (spares : Workspace.Spares crew.desk crew.listId workspace after) : crew.Keeps after standing :=
  ⟨keeps.ready.spared spares,
    fun key mem => ⟨(keeps.finished key mem).1.spared spares, (keeps.finished key mem).2.spared spares⟩,
    fun task own => (keeps.inHand task own).spared spares⟩

/-- Finished tasks are kept by an operation that does not move them. -/
theorem finished_perform (keeps : crew.Keeps workspace standing) (operation : Operation)
    (still : ∀ key ∈ standing.finished, ¬ operation.moves key .completed) :
    ∀ key ∈ standing.finished, crew.Stands (workspace.perform crew.desk crew.listId operation).2 key .completed ∧
      crew.Stored (workspace.perform crew.desk crew.listId operation).2 key .completed := by
  intro key mem
  obtain ⟨stands, stored⟩ := keeps.finished key mem
  have stands' : crew.Stands (workspace.perform crew.desk crew.listId operation).2 key .completed :=
    stands.perform keeps.ready fun _ => still key mem
  exact ⟨stands', stored.perform keeps.ready stands'⟩

/-- Every operation that a worker may ask for leaves it with what it has to keep, as it stands after the answer. -/
theorem perform (keeps : crew.Keeps workspace standing) {owner : Text} (may : standing.May owner operation) :
    crew.Keeps (workspace.perform crew.desk crew.listId operation).2
      (standing.after operation (workspace.perform crew.desk crew.listId operation).1) := by
  have ready := keeps.ready.perform crew.listId operation
  cases operation with
  | create subject description => exact may.elim
  | get taskId => exact may.elim
  | list status =>
    refine ⟨ready, keeps.finished_perform _ fun _ _ => id, fun task own => ?_⟩
    exact (keeps.inHand task own).perform keeps.ready fun _ => id
  | claim taskId claimant =>
    have finished := keeps.finished_perform (.claim taskId claimant) fun _ _ moves => nomatch moves.2
    cases answered : (workspace.perform crew.desk crew.listId (.claim taskId claimant)).1 with
    | ok task =>
      obtain ⟨list, won⟩ := won_of_claim keeps.ready answered
      refine ⟨ready, finished, fun task' own => ?_⟩
      cases own
      rw [won.id]
      exact won.claimed
    | error failure =>
      have free : (standing.after (.claim taskId claimant) (.error failure)).phase = .free := may.1
      refine ⟨ready, finished, fun task own => ?_⟩
      rw [free] at own
      cases own
  | update taskId change =>
    obtain ⟨⟨task, phase, own⟩, status, rfl, -⟩ := may
    have handled : crew.Stands workspace taskId .inProgress := by
      rw [← own]
      exact keeps.inHand task (by rw [phase]; rfl)
    -- The task in hand is in progress, so it is none of the finished ones.
    have finished := keeps.finished_perform (.update taskId (.toStatus status)) fun key mem moves => by
      obtain ⟨rfl, -⟩ := moves
      cases handled.unique (keeps.finished taskId mem).1
    cases answered : (workspace.perform crew.desk crew.listId (.update taskId (.toStatus status))).1 with
    | error failure => exact ⟨ready, finished, nofun⟩
    | ok answer =>
      refine ⟨ready, fun key mem => ?_, nofun⟩
      dsimp only [Standing.after, Change.toStatus] at mem
      split at mem
      · next completes =>
        cases completes
        rcases List.mem_append.mp mem with mem | mem
        · exact finished key mem
        · cases List.mem_singleton.mp mem
          have stands := stands_of_update keeps.ready handled .completed
          exact ⟨stands, keeps.ready.stored_of_answered rfl answered stands⟩
      · exact finished key mem

/-- A script that does what a worker may do, with nobody else about, ends where the worker has kept everything;
induction on the script. -/
theorem ran {α : Type} {ends : α → Standing → Prop} {drift : Workspace → Workspace → Prop}
    (spares : ∀ before after, drift before after → Workspace.Spares crew.desk crew.listId before after)
    {script : Script Task (HandlerEnd × Finding) α} {happenings : List (Happening Task (HandlerEnd × Finding))}
    {result : α} (works : crew.Works number ends standing script) (keeps : crew.Keeps workspace standing)
    (ran : script.Ran drift workspace happenings result after) :
    ∃ reached, ends result reached ∧ crew.Keeps after reached := by
  induction script generalizing standing workspace happenings with
  | done result =>
    obtain ⟨rfl, rfl, rfl⟩ := ran
    exact ⟨standing, works, keeps⟩
  | instant effect next ih =>
    obtain ⟨now, drifted, ran⟩ := ran
    obtain ⟨-, quiet, works⟩ := works
    exact ih now (works now) ((keeps.spared (spares _ _ drifted)).spared (quiet.spares now)) ran
  | ask desk listId operation next ih =>
    obtain ⟨now, later, drifted, rfl, ran⟩ := ran
    obtain ⟨rfl, rfl, may, works⟩ := works
    exact ih _ (works _) ((keeps.spared (spares _ _ drifted)).perform may) ran
  | pause next ih => exact works.elim
  | handOut jobs next ih =>
    obtain ⟨now, reports, later, drifted, all, rfl, ran⟩ := ran
    obtain ⟨task, rfl, holding, works⟩ := works
    obtain ⟨report, rfl⟩ := List.length_eq_one_iff.mp all
    have keeps := keeps.spared (spares _ _ drifted)
    refine ih _ (works report) ⟨keeps.ready, keeps.finished, fun task' own => keeps.inHand task' ?_⟩ ran
    rw [holding]
    exact own

end Keeps

end Crew

namespace Worker

variable {Job Report Finding : Type} {worker : Worker Job Report Finding} {before after : Workspace} {list : TaskList}
  {drift : Workspace → Workspace → Prop}

/-- A crew of one worker. -/
def alone (worker : Worker Job Report Finding) : Crew Job Report Finding :=
  ⟨worker.desk, worker.listId, fun _ => worker.owner, fun _ => worker.handler⟩

/-- With its list in memory, the tasks under their own identifiers and the counters ahead, the worker can work. -/
theorem Sees.ready (sees : worker.Sees before list) (named : list.Named)
    (ahead : (before.desk worker.desk).store.Ahead) : worker.alone.Ready before := by
  have held : (worker.alone.store before).lists.find? worker.alone.listId = some list := sees.held
  refine ⟨sees.present, ahead, fun list' held' => ?_, fun absent => ?_⟩
  · cases held.symm.trans held'
    exact named
  · cases held.symm.trans absent

/-- A pass with nobody else about leaves every task that it returns completed in memory and in the file. -/
theorem finished_kept [Inhabited Finding] (quiet : worker.Undisturbed drift)
    (spares : ∀ before after, drift before after → Workspace.Spares worker.desk worker.listId before after)
    (named : list.Named) (ahead : (before.desk worker.desk).store.Ahead)
    (shows : before.Shows worker.desk worker.listId list) {happenings : Chronicle Finding} {tally : Tally Finding}
    (ran : Script.Ran drift worker.handingOut.pass.run before happenings (.ok tally) after) :
    ∀ key ∈ tally.completed, worker.alone.Stands after key .completed ∧ worker.alone.Stored after key .completed := by
  obtain ⟨now, later, drifted, rfl, others⟩ := ran_asked ran
  have shows := (quiet before now drifted).shows list shows
  have answer : (now.perform worker.desk worker.listId (.list (some .pending))).1 =
      .ok (list.listed (some .pending)) := shows.answer (.list (some .pending))
  have sees : worker.Sees (now.perform worker.desk worker.listId (.list (some .pending))).2 list :=
    shows.perform (.list (some .pending))
  have ahead : ((now.perform worker.desk worker.listId (.list (some .pending))).2.desk worker.desk).store.Ahead := by
    have course := Store.course_perform (now.desk worker.desk).store worker.listId (.list (some .pending)) now.host
    rw [(Workspace.carries_perform shows.present worker.listId (.list (some .pending))).store]
    refine course.ahead ?_
    rw [(spares before now drifted).store]
    exact ahead
  rw [answer] at others
  have same : worker.handingOut.batchLimit = worker.batchLimit := rfl
  dsimp only at others
  rw [same] at others
  cases limited : worker.batchLimit.toInt with
  | error fault =>
    rw [limited] at others
    obtain ⟨-, failed, -⟩ := others
    cases failed
  | ok limit =>
    rw [limited] at others
    have works : worker.alone.Toils 0 (fun tally reached => reached = ⟨.free, [] ++ tally.completed⟩) ⟨.free, []⟩
        (worker.handingOut.attemptAll ((list.listed (some .pending)).take limit.toNat)) :=
      Crew.toils_attemptAll worker.batchLimit _
    have keeps : worker.alone.Keeps _ ⟨.free, []⟩ := ⟨sees.ready named ahead, nofun, nofun⟩
    obtain ⟨reached, rfl, keeps⟩ := keeps.ran spares works others
    exact keeps.finished

end Worker

end Taskboard
