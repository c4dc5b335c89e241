import Taskboard.Proofs.Store.Claim
import Taskboard.Proofs.Store.Identity
import Taskboard.Proofs.Worker.Crew

/-!
# The statuses on a shared list

What an operation may do to the status of a task: a claim takes a pending task, an update with a status sets
it, and nothing else changes a status. So in the list of a crew, once it is in memory, a task stays where it
stands while nobody claims it from pending or sets its status.
-/

namespace Taskboard

open Disk

/-- Whether an operation may change the status of the task under a key, given the one it has. -/
def Operation.moves (key : Text) (status : Status) : Operation → Prop
  | .update taskId change => taskId = key ∧ change.status ≠ none
  | .claim taskId _ => taskId = key ∧ status = .pending
  | _ => False

namespace Operation

variable {operation : Operation} {key : Text} {status : Status}

/-- An operation that sets no status changes none. -/
theorem not_moves_of_modest (modest : operation.setsStatus = false) : ¬ operation.moves key status := by
  cases operation with
  | update taskId change =>
    rintro ⟨-, set⟩
    exact set (Option.not_isSome_iff_eq_none.mp (Bool.eq_false_iff.mp modest))
  | claim taskId owner => cases modest
  | _ => exact id

end Operation

namespace TaskList

variable {list after : TaskList} {now : Except QuantityFault Int} {operation : Operation}
  {key : Text} {status other : Status}

/-- A task is stored under a key and has a status. -/
def Stands (list : TaskList) (key : Text) (status : Status) : Prop :=
  ∃ task, list.find? key = some task ∧ task.status = status

/-- A task has one status. -/
theorem Stands.unique (first : list.Stands key status) (second : list.Stands key other) :
    status = other := by
  obtain ⟨task, found, rfl⟩ := first
  obtain ⟨task', found', rfl⟩ := second
  cases found.symm.trans found'
  rfl

/-- A key is completed exactly if a completed task is stored under it. -/
theorem isCompleted_iff : list.isCompleted key = true ↔ list.Stands key .completed := by
  rw [isCompleted]
  cases found : list.find? key with
  | none => simp [Stands, found]
  | some task => simp [Stands, found]

/-- A task waits for nothing exactly if all its dependencies are completed. -/
theorem stands_of_free {task : Task} (free : list.incompleteDependencies task = []) :
    ∀ key ∈ task.blockedBy, list.Stands key .completed := by
  intro key mem
  have left := List.filter_eq_nil_iff.mp free key mem
  rw [← isCompleted_iff]
  simpa using left

/-- A task stays where it stands unless the operation may change its status. -/
theorem Stands.becomes (stands : list.Stands key status) (ahead : list.CounterAhead)
    (becomes : Becomes list now operation after) (still : ¬ operation.moves key status) :
    after.Stands key status := by
  obtain ⟨task, found, rfl⟩ := stands
  cases becomes with
  | @created subject description second shown short =>
    exact ⟨task, ahead.find?_grown short found subject description second, rfl⟩
  | @updated taskId change old found' =>
    by_cases same : key = taskId
    · subst same
      cases found.symm.trans found'
      have unset : change.status = none := by
        by_contra set
        exact still ⟨rfl, set⟩
      refine ⟨_, by rw [find?_put, if_pos rfl], ?_⟩
      rw [status_touched, Task.apply, unset]
      rfl
    · exact ⟨task, by rw [find?_put, if_neg same, found], rfl⟩
  | @claimed taskId owner old found' pending free =>
    by_cases same : key = taskId
    · subst same
      cases found.symm.trans found'
      exact absurd ⟨rfl, pending⟩ still
    · exact ⟨task, by rw [find?_put, if_neg same, found], rfl⟩

end TaskList

/-- Whether the store of a desk and the file of a list are the same at two moments. -/
structure Workspace.Spares (number : Nat) (listId : Text) (before after : Workspace) : Prop where
  /-- The desk stays. -/
  present : number < before.desks.length → number < after.desks.length
  /-- The store behind it is as it was. -/
  store : (after.desk number).store = (before.desk number).store
  /-- So is the file. -/
  file : ∀ path, (before.desk number).store.filePath listId = .ok path → Leaves path before.disk after.disk

namespace Crew

variable {Job Report Finding : Type}

/-- The store that a crew asks. -/
def store (crew : Crew Job Report Finding) (workspace : Workspace) : Store :=
  (workspace.desk crew.desk).store

/-- The list of a crew is in memory, and a task stands there. -/
def Stands (crew : Crew Job Report Finding) (workspace : Workspace) (key : Text) (status : Status) :
    Prop :=
  ∃ list, (crew.store workspace).lists.find? crew.listId = some list ∧ list.Stands key status

/-- Whether a crew can work on its list: its desk is there, the counters in memory are ahead, as they are in
every run of a new store, and the tasks of the list, in memory or else in its file, are stored under their
own identifiers. -/
structure Ready (crew : Crew Job Report Finding) (workspace : Workspace) : Prop where
  /-- The desk is there. -/
  present : crew.desk < workspace.desks.length
  /-- The counters in memory are ahead. -/
  ahead : (crew.store workspace).Ahead
  /-- The tasks in memory are stored under their own identifiers. -/
  memory : ∀ list, (crew.store workspace).lists.find? crew.listId = some list → list.Named
  /-- So are the tasks in the file that is still to be read. -/
  file : (crew.store workspace).lists.find? crew.listId = none →
    ∀ path bytes list, (crew.store workspace).filePath crew.listId = .ok path →
      workspace.disk.contents path = some bytes → TaskList.load (crew.store workspace).spare bytes = .ok list →
        list.Named

variable {crew : Crew Job Report Finding} {workspace after : Workspace} {effect : Workspace → Workspace}
  {listId key : Text} {operation : Operation} {status other : Status} {list : TaskList}

/-- What is quiet spares the store and the file. -/
theorem Quiet.spares (quiet : crew.Quiet effect) (workspace : Workspace) :
    Workspace.Spares crew.desk crew.listId workspace (effect workspace) :=
  ⟨quiet.present workspace, quiet.store workspace, quiet.file workspace⟩

/-- A task has one status. -/
theorem Stands.unique (first : crew.Stands workspace key status) (second : crew.Stands workspace key other) :
    status = other := by
  obtain ⟨list, held, first⟩ := first
  obtain ⟨list', held', second⟩ := second
  cases held.symm.trans held'
  exact first.unique second

/-- The list that is opened is the one in which the tasks stand. -/
theorem Stands.opened (stands : crew.Stands workspace key status)
    (opened : (crew.store workspace).openedList crew.listId workspace.host = .ok list) :
    list.Stands key status := by
  obtain ⟨list', held, stands⟩ := stands
  cases (Store.openedList_of_held held).symm.trans opened
  exact stands

/-- Whether the list of a crew, as the store opens it, has a completed task under a key. -/
def Completed (crew : Crew Job Report Finding) (workspace : Workspace) (key : Text) : Prop :=
  ∃ list, (crew.store workspace).openedList crew.listId workspace.host = .ok list ∧
    list.isCompleted key = true

/-- A completed task of the list in memory is a completed task of the list that is opened. -/
theorem Stands.completed {key : Text} (stands : crew.Stands workspace key .completed) :
    crew.Completed workspace key := by
  obtain ⟨list, held, stands⟩ := stands
  exact ⟨list, Store.openedList_of_held held, TaskList.isCompleted_iff.mpr stands⟩

namespace Ready

/-- The tasks of the list that is opened are stored under their own identifiers. -/
theorem named (ready : crew.Ready workspace)
    (opened : (crew.store workspace).openedList crew.listId workspace.host = .ok list) : list.Named := by
  cases Store.opens_of_openedList opened with
  | inMemory held => exact ready.memory list held
  | fetched absent named found =>
    rcases Store.fetch_ok found with ⟨-, rfl⟩ | ⟨bytes, read, loaded⟩
    · exact nofun
    · exact ready.file absent _ bytes list named (contents_of_read read) loaded

/-- A crew stays ready while its store and its file are spared. -/
theorem spared (ready : crew.Ready workspace) (spares : Workspace.Spares crew.desk crew.listId workspace after) :
    crew.Ready after := by
  have same : crew.store after = crew.store workspace := spares.store
  refine ⟨spares.present ready.present, ?_, ?_, ?_⟩
  · rw [same]
    exact ready.ahead
  · rw [same]
    exact ready.memory
  · rw [same]
    intro absent path bytes list named contents loaded
    rw [(spares.file path named).contents] at contents
    exact ready.file absent path bytes list named contents loaded

/-- What is quiet leaves a crew ready. -/
theorem quiet (ready : crew.Ready workspace) (quiet : crew.Quiet effect) : crew.Ready (effect workspace) :=
  ready.spared (quiet.spares workspace)

/-- An operation at the desk is the operation of the store. -/
theorem carries (ready : crew.Ready workspace) (listId : Text) (operation : Operation) :
    Workspace.Carries workspace (workspace.perform crew.desk listId operation).2 crew.desk
      (workspace.perform crew.desk listId operation).1
      ((crew.store workspace).perform listId operation workspace.host) :=
  Workspace.carries_perform ready.present listId operation

/-- After an operation on the list, the store and the files are as before, or the list that was opened is in
memory, perhaps with a change. -/
theorem after_own (ready : crew.Ready workspace) (operation : Operation) :
    let after := (workspace.perform crew.desk crew.listId operation).2
    crew.store after = crew.store workspace ∧ after.disk = workspace.disk ∨
      ∃ list next, (crew.store workspace).openedList crew.listId workspace.host = .ok list ∧
        (crew.store after).lists.find? crew.listId = some next ∧
        (next = list ∨ TaskList.Becomes list workspace.clock.second operation next) := by
  have carries := ready.carries crew.listId operation
  have course := Store.course_perform (crew.store workspace) crew.listId operation workspace.host
  rcases course.memory with ⟨same, disk⟩ | ⟨list, next, opened, held, came⟩
  · exact .inl ⟨carries.store.trans same, carries.disk.trans disk⟩
  · refine .inr ⟨list, next, opened, ?_, came⟩
    rw [← held]
    exact congrArg (fun store : Store => store.lists.find? crew.listId) carries.store

/-- After an operation on another list, the list in memory and its file are as before. -/
theorem after_other (ready : crew.Ready workspace) (ne : crew.listId ≠ listId) (operation : Operation) :
    let after := (workspace.perform crew.desk listId operation).2
    (crew.store after).lists.find? crew.listId = (crew.store workspace).lists.find? crew.listId ∧
      ∀ path, (crew.store workspace).filePath crew.listId = .ok path →
        Leaves path workspace.disk after.disk := by
  have carries := ready.carries listId operation
  have course := Store.course_perform (crew.store workspace) listId operation workspace.host
  constructor
  · rw [← course.find?_other ne]
    exact congrArg (fun store : Store => store.lists.find? crew.listId) carries.store
  · intro path named
    rw [carries.disk]
    exact course.leaves_other ne named

/-- Every operation at the desk leaves a crew ready. -/
theorem perform (ready : crew.Ready workspace) (listId : Text) (operation : Operation) :
    crew.Ready (workspace.perform crew.desk listId operation).2 := by
  have carries := ready.carries listId operation
  have course := Store.course_perform (crew.store workspace) listId operation workspace.host
  have folder : (crew.store (workspace.perform crew.desk listId operation).2).folder =
      (crew.store workspace).folder := (congrArg Store.folder carries.store).trans course.folder
  have paths : (crew.store (workspace.perform crew.desk listId operation).2).filePath crew.listId =
      (crew.store workspace).filePath crew.listId := by
    rw [Store.filePath, Store.filePath, folder]
  have room : (crew.store (workspace.perform crew.desk listId operation).2).spare =
      (crew.store workspace).spare := (congrArg Store.spare carries.store).trans course.spare
  have ahead : (crew.store (workspace.perform crew.desk listId operation).2).Ahead := by
    rw [store, carries.store]
    exact course.ahead ready.ahead
  refine ⟨carries.length ▸ ready.present, ahead, ?_, ?_⟩
  · intro next held
    by_cases own : crew.listId = listId
    · subst own
      rcases ready.after_own operation with ⟨same, -⟩ | ⟨list, next', opened, held', came⟩
      · rw [same] at held
        exact ready.memory next held
      · cases held.symm.trans held'
        rcases came with rfl | becomes
        · exact ready.named opened
        · exact (ready.named opened).becomes becomes
    · rw [(ready.after_other own operation).1] at held
      exact ready.memory next held
  · intro absent path bytes list named contents loaded
    rw [paths] at named
    by_cases own : crew.listId = listId
    · subst own
      rcases ready.after_own operation with ⟨same, disk⟩ | ⟨list, next', opened, held', came⟩
      · rw [same] at absent
        rw [disk] at contents
        rw [room] at loaded
        exact ready.file absent path bytes list named contents loaded
      · cases absent.symm.trans held'
    · obtain ⟨same, leaves⟩ := ready.after_other own operation
      rw [same] at absent
      rw [(leaves path named).contents] at contents
      rw [room] at loaded
      exact ready.file absent path bytes list named contents loaded

end Ready

namespace Stands

/-- No status changes while the store is spared. -/
theorem spared (stands : crew.Stands workspace key status)
    (spares : Workspace.Spares crew.desk crew.listId workspace after) :
    crew.Stands after key status := by
  have same : crew.store after = crew.store workspace := spares.store
  rw [Stands, same]
  exact stands

/-- What is quiet changes no status. -/
theorem quiet (stands : crew.Stands workspace key status) (quiet : crew.Quiet effect) :
    crew.Stands (effect workspace) key status :=
  stands.spared (quiet.spares workspace)

/-- A task stays where it stands unless the operation is on the list and may change its status. -/
theorem perform (stands : crew.Stands workspace key status) (ready : crew.Ready workspace)
    (still : listId = crew.listId → ¬ operation.moves key status) :
    crew.Stands (workspace.perform crew.desk listId operation).2 key status := by
  by_cases own : crew.listId = listId
  · subst own
    rcases ready.after_own operation with ⟨same, -⟩ | ⟨list, next, opened, held, came⟩
    · rw [Stands, same]
      exact stands
    · have before := stands.opened opened
      refine ⟨next, held, ?_⟩
      rcases came with rfl | becomes
      · exact before
      · exact before.becomes (ready.ahead.counterAhead opened) becomes (still rfl)
  · rw [Stands, (ready.after_other own operation).1]
    exact stands

end Stands

/-- An update that sets a status sets it in memory, whether or not that is saved. -/
theorem stands_of_update (ready : crew.Ready workspace) (stands : crew.Stands workspace key other)
    (status : Status) :
    crew.Stands (workspace.perform crew.desk crew.listId (.update key (.toStatus status))).2 key status := by
  obtain ⟨list, held, task, found, -⟩ := stands
  have carries := ready.carries crew.listId (.update key (.toStatus status))
  have course := Store.course_perform (crew.store workspace) crew.listId
    (.update key (.toStatus status)) workspace.host
  have after := course.held (Store.openedList_of_held held)
  rw [← carries.store] at after
  let changed := (task.apply (.toStatus status)).touched workspace.host.clock.second
  have left : (list.update crew.listId key (.toStatus status) workspace.host.clock.second).verdict.left? =
      some (list.put key changed) := by
    rw [TaskList.update_left?, found]
    rfl
  have inMemory := after.trans (congrArg (fun left => some (left.getD list)) left)
  have stored : (list.put key changed).find? key = some changed := by
    rw [TaskList.find?_put, if_pos rfl]
  exact ⟨list.put key changed, inMemory, changed, stored, TaskList.status_touched _⟩

/-- A claim that returns a task has found it pending, under its identifier, with all its dependencies
completed, and leaves it in progress. -/
structure Won (crew : Crew Job Report Finding) (workspace : Workspace) (key : Text) (task : Task)
    (list : TaskList) (after : Workspace) : Prop where
  /-- The task has the identifier that was asked for. -/
  id : task.id = key
  /-- The list that was opened for the claim. -/
  opened : (crew.store workspace).openedList crew.listId workspace.host = .ok list
  /-- There the task was pending. -/
  pending : list.Stands key .pending
  /-- All that it waits for was completed. -/
  free : ∀ dependency ∈ task.blockedBy, list.Stands dependency .completed
  /-- Now it is in progress. -/
  claimed : crew.Stands after key .inProgress
  /-- All that it waits for still is completed. -/
  stillFree : ∀ dependency ∈ task.blockedBy, crew.Stands after dependency .completed

/-- A claim that returns a task is won. -/
theorem won_of_claim (ready : crew.Ready workspace) {owner : Text} {task : Task}
    (answered : (workspace.perform crew.desk crew.listId (.claim key owner)).1 = .ok task) :
    ∃ list, crew.Won workspace key task list
      (workspace.perform crew.desk crew.listId (.claim key owner)).2 := by
  have carries := ready.carries crew.listId (.claim key owner)
  have course := Store.course_perform (crew.store workspace) crew.listId (.claim key owner) workspace.host
  have result := carries.result.symm.trans answered
  obtain ⟨list, after, opened, changed⟩ := course.changed_of_ok rfl result
  have becomes := Store.Course.becomes_of_changed changed
  have stored := TaskList.find?_of_claim changed
  have held := course.held opened
  rw [changed] at held
  have inMemory : (crew.store (workspace.perform crew.desk crew.listId (.claim key owner)).2).lists.find?
      crew.listId = some after := by
    rw [store, carries.store]
    exact held
  have ahead := ready.ahead.counterAhead opened
  have named := ready.named opened
  have ⟨old, found, pending, free, same⟩ : ∃ old, list.find? key = some old ∧ old.status = .pending ∧
      list.incompleteDependencies old = [] ∧
      after.find? key = some ((old.claimedBy owner).touched workspace.host.clock.second) := by
    cases becomes with
    | @claimed _ _ old found pending free =>
      exact ⟨old, found, pending, free, by rw [TaskList.find?_put, if_pos rfl]⟩
  obtain rfl := Option.some.inj (stored.symm.trans same)
  have blockedBy : ((old.claimedBy owner).touched workspace.host.clock.second).blockedBy =
      old.blockedBy := by
    cases workspace.host.clock.second <;> rfl
  have completed := TaskList.stands_of_free free
  have own : old.id = key := named.id_eq found
  have id : ((old.claimedBy owner).touched workspace.host.clock.second).id = key :=
    (TaskList.id_touched (old.claimedBy owner)).trans own
  refine ⟨list, id, opened, ⟨old, found, pending⟩, ?_, ⟨after, inMemory, _, same, ?_⟩, ?_⟩
  · rwa [blockedBy]
  · rw [TaskList.status_touched]
    rfl
  · rw [blockedBy]
    intro dependency mem
    exact ⟨after, inMemory, (completed dependency mem).becomes ahead becomes fun moves => nomatch moves.2⟩

end Crew

end Taskboard
