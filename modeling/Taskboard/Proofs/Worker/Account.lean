import Taskboard.Proofs.Worker.Abandoned
import Taskboard.Proofs.Worker.Kept

/-!
# The account of a pass

What a pass did can be told from what happened in it: which tasks its handler was called with, in which order, and
how each call ended; and which tasks were set to completed with the store confirming it. A pass of a worker that has
its list for itself returns, unless its handler is cancelled or the list cannot be put in its file, and its account is
right: no task is handled twice or unclaimed, every handled task stands in memory where its handler left it, every
other task has the record that it had, apart from those whose claim was not saved, and the tasks that it returns are
those that are done for good.
-/

namespace Taskboard

namespace Workspace

variable {number : Nat} {listId : Text} {before middle after : Workspace}

/-- A store and a file that are spared twice are spared. -/
theorem Spares.trans (first : Spares number listId before middle) (second : Spares number listId middle after) :
    Spares number listId before after := by
  refine ⟨fun present => second.present (first.present present), second.store.trans first.store,
    fun path named => ?_⟩
  have later : (middle.desk number).store.filePath listId = .ok path := by
    rw [first.store]
    exact named
  exact (first.file path named).trans (second.file path later)

/-- Whether a list that is worked on is left alone between two moments, in memory and in its file. Saves may
break off at one of them and not at the other. -/
structure LeavesAlone (number : Nat) (listId : Text) (before after : Workspace) : Prop
    extends LetsBe number listId before after, Spares number listId before after

/-- Nothing need happen. -/
theorem LeavesAlone.refl (workspace : Workspace) : LeavesAlone number listId workspace workspace :=
  ⟨LetsBe.refl workspace, id, rfl, fun path _ => Disk.Leaves.refl path workspace.disk⟩

/-- Whether saves break off from now on has no influence on what was saved. -/
theorem LeavesAlone.breaking (workspace : Workspace) (breakdown : Option Disk.Breakdown) :
    LeavesAlone number listId workspace { workspace with breakdown } := by
  have shows (list : TaskList) (shows : workspace.Shows number listId list) :
      Shows { workspace with breakdown } number listId list :=
    ⟨shows.present, shows.dated, shows.named, shows.opened⟩
  exact ⟨⟨shows, fun list holds => ⟨shows list holds.toShows, holds.held⟩⟩,
    id, rfl, fun path _ => Disk.Leaves.refl path workspace.disk⟩

/-- Jobs that leave a list alone may be done while it is worked on. -/
theorem LeavesAlone.allows {Job Report : Type} {perform : Job → Workspace → Report × Workspace}
    (jobs : ∀ job workspace, LeavesAlone number listId workspace (perform job workspace).2) :
    Script.Allows (LeavesAlone number listId) perform where
  refl := refl
  trans _ _ _ first second := ⟨first.toLetsBe.trans second.toLetsBe, first.toSpares.trans second.toSpares⟩
  jobs := jobs

end Workspace

namespace Worker

open Happening

variable {Finding : Type}

/-- The tasks that the handler is called with, in order, each with what is reported on it. -/
def calls (happenings : Chronicle Finding) : List (Task × HandlerEnd × Finding) :=
  happenings.filterMap fun
    | reported task report => some (task, report)
    | replied _ => none

/-- Whether something that happens is that a task is set to completed and that this is saved. -/
def completes (key : Text) : Happening Task (HandlerEnd × Finding) → Bool
  | replied ⟨.update taskId change, .ok _⟩ => taskId = key && change.status = some .completed
  | _ => false

/-- The tasks over which the handler returned and that were set to completed and saved, in the order of the calls. -/
def finished (happenings : Chronicle Finding) : List Text :=
  ((calls happenings).filter fun call => call.2.1 = .returned && happenings.any (completes call.1.id)).map (·.1.id)

variable {owner key : Text} {list after : TaskList} {happenings early late : Chronicle Finding}
  {result : Except Interruption (Tally Finding)} {happening : Happening Task (HandlerEnd × Finding)}
  {candidates : List Task} {tally : Tally Finding}

theorem calls_append : calls (early ++ late) = calls early ++ calls late := List.filterMap_append

/-- The handler is called with a task if something is reported on it. -/
theorem mem_calls {task : Task} {report : HandlerEnd × Finding} :
    (task, report) ∈ calls happenings ↔ reported task report ∈ happenings := by
  rw [calls, List.mem_filterMap]
  constructor
  · rintro ⟨happening, mem, same⟩
    cases happening with
    | replied reply => cases same
    | reported task report =>
      cases same
      exact mem
  · exact fun mem => ⟨_, mem, rfl⟩

/-- That a task is set to completed is about the task. -/
theorem taskOf?_of_completes (h : completes key happening = true) : taskOf? happening = some key := by
  unfold completes at h
  split at h
  · rw [Bool.and_eq_true, decide_eq_true_eq] at h
    rw [taskOf?, h.1]
  · cases h

/-- If nothing happens about a task, it is not set to completed. -/
theorem any_completes_of_about (none : about key happenings = []) : happenings.any (completes key) = false := by
  rw [← any_about fun _ => taskOf?_of_completes, none]
  rfl

/-- What is finished in two parts is finished in one of them, if neither has anything about the calls of the other. -/
theorem finished_append (first : ∀ call ∈ calls early, about call.1.id late = [])
    (second : ∀ call ∈ calls late, about call.1.id early = []) :
    finished (early ++ late) = finished early ++ finished late := by
  rw [finished, calls_append, List.filter_append, List.map_append]
  -- Completions are looked for in both parts, so the other part must have none for the calls of the one.
  refine congrArg₂ (· ++ ·) (congrArg _ (List.filter_congr fun call mem => ?_))
    (congrArg _ (List.filter_congr fun call mem => ?_))
  · rw [List.any_append, any_completes_of_about (first call mem), Bool.or_false]
  · rw [List.any_append, any_completes_of_about (second call mem), Bool.false_or]

/-- In an encounter the handler is called once at most, right after the claim and with the claimed task. -/
theorem Encounter.calls (encounter : Encounter owner key list happenings result after) (named : list.Named) :
    calls happenings = [] ∨ ∃ task report late, task.id = key ∧ task.status = .inProgress ∧
      task.owner = some owner ∧ Worker.calls happenings = [(task, report)] ∧
      happenings = replied ⟨.claim key owner, .ok task⟩ :: reported task report :: late := by
  cases encounter with
  | refused failure refusal closed => exact .inl rfl
  | unsaved second failure claimable failed expected => exact .inl rfl
  | unstored second what claimable => exact .inl rfl
  | cancelled second finding claimable =>
    exact .inr ⟨_, _, [], claimable.id_heldBy named owner .inProgress second, rfl, rfl, rfl, rfl⟩
  | settled second second' finding answer claimable settles saved =>
    exact .inr ⟨_, _, _, claimable.id_heldBy named owner .inProgress second, rfl, rfl, rfl, rfl⟩
  | unsettled second second' finding what claimable settles =>
    exact .inr ⟨_, _, _, claimable.id_heldBy named owner .inProgress second, rfl, rfl, rfl, rfl⟩

/-- So it is called for the candidate, if at all. -/
theorem Encounter.calls_sublist (encounter : Encounter owner key list happenings result after) (named : list.Named) :
    ((Worker.calls happenings).map (·.1.id)).Sublist [key] := by
  rcases encounter.calls named with none | ⟨task, report, late, rfl, -, -, one, -⟩
  · rw [none]
    exact List.nil_sublist _
  · rw [one]
    exact List.Sublist.refl _

/-- Whatever is handled in an encounter is in progress for the worker, and was claimed just before. -/
theorem Encounter.claimed (encounter : Encounter owner key list happenings result after) (named : list.Named)
    {task : Task} {report : HandlerEnd × Finding} (mem : reported task report ∈ happenings) :
    task.status = .inProgress ∧ task.owner = some owner ∧ ∃ late,
      happenings = replied ⟨.claim task.id owner, .ok task⟩ :: reported task report :: late := by
  have called := mem_calls.mpr mem
  rcases encounter.calls named with none | ⟨task', report', late, rfl, status, own, one, course⟩
  · rw [none] at called
    cases called
  · rw [one, List.mem_singleton] at called
    cases called
    exact ⟨status, own, late, course⟩

/-- What an encounter returns is what is finished in it. -/
theorem Encounter.finished (encounter : Encounter owner key list happenings (.ok tally) after) (named : list.Named) :
    tally.completed = finished happenings := by
  cases encounter with
  | refused failure refusal closed => rfl
  | unsaved second failure claimable failed expected => rfl
  | @settled task second second' finding handlerEnd status answer claimable settles saved =>
    have own := claimable.id_heldBy named owner .inProgress second
    have called : Worker.calls
        ([replied ⟨.claim key owner, .ok (task.heldBy owner .inProgress second)⟩,
          reported (task.heldBy owner .inProgress second) (handlerEnd, finding),
          replied ⟨.update key (.toStatus status), answer⟩] : Chronicle Finding) =
        [(task.heldBy owner .inProgress second, handlerEnd, finding)] := rfl
    rw [Worker.finished, called]
    cases handlerEnd with
    | cancelled => cases settles
    | raised =>
      cases settles
      rfl
    | returned =>
      cases settles
      cases answer with
      | ok task' => simp [own, completes, Change.toStatus, Except.isOk, Except.toBool]
      | error failure => simp [completes, Except.isOk, Except.toBool]

/-- The handler is called in the order of the candidates, and once at most for each of them. -/
theorem Sweep.calls_sublist (sweep : Sweep owner candidates list happenings result after) (named : list.Named) :
    ((calls happenings).map (·.1.id)).Sublist (candidates.map Task.id) := by
  induction sweep with
  | done list => exact List.Sublist.refl _
  | @next candidate rest list middle after early late tally result first others ih =>
    rw [calls_append, List.map_append]
    exact (first.calls_sublist named).append (ih (first.named named))
  | cut first => exact (first.calls_sublist named).trans ((List.nil_sublist _).cons_cons _)

/-- Whatever is handled in a sweep is in progress for the worker, and was claimed just before. -/
theorem Sweep.claimed (sweep : Sweep owner candidates list happenings result after) (named : list.Named) {task : Task}
    {report : HandlerEnd × Finding} (mem : reported task report ∈ happenings) :
    task.status = .inProgress ∧ task.owner = some owner ∧ ∃ early late,
      happenings = early ++ replied ⟨.claim task.id owner, .ok task⟩ :: reported task report :: late := by
  induction sweep with
  | done list => cases mem
  | @next candidate rest list middle after early late tally result first others ih =>
    rcases List.mem_append.mp mem with mem | mem
    · obtain ⟨status, own, more, rfl⟩ := first.claimed named mem
      exact ⟨status, own, [], more ++ late, rfl⟩
    · obtain ⟨status, own, before, more, rfl⟩ := ih (first.named named) mem
      exact ⟨status, own, early ++ before, more, (List.append_assoc _ _ _).symm⟩
  | cut first =>
    obtain ⟨status, own, more, rfl⟩ := first.claimed named mem
    exact ⟨status, own, [], more, rfl⟩

/-- Whether no call of the handler is cancelled, and the list can always be put in its file. -/
structure GoesOn (happenings : Chronicle Finding) : Prop where
  /-- No call is cancelled. -/
  handled : ∀ task report, reported task report ∈ happenings → report.1 ≠ .cancelled
  /-- The list can be put in its file. -/
  storable : ∀ (operation : Operation) what, replied ⟨operation, .error (.unstorable what)⟩ ∉ happenings

/-- What goes on after something goes on. -/
theorem GoesOn.mono (goesOn : GoesOn happenings) (part : late ⊆ happenings) : GoesOn late :=
  ⟨fun task report mem => goesOn.handled task report (part mem),
    fun operation what mem => goesOn.storable operation what (part mem)⟩

/-- A sweep returns unless the handler is cancelled or the list cannot be put in its file. -/
theorem Sweep.returns (sweep : Sweep owner candidates list happenings result after) (goesOn : GoesOn happenings) :
    ∃ tally, result = .ok tally := by
  induction sweep with
  | done list => exact ⟨_, rfl⟩
  | @next candidate rest list middle after early late tally result first others ih =>
    obtain ⟨total, rfl⟩ := ih (goesOn.mono (List.subset_append_right _ _))
    exact ⟨_, rfl⟩
  | @cut candidate rest list after happenings interruption first =>
    cases first with
    | unstored second what claimable => exact absurd List.mem_cons_self (goesOn.storable _ what)
    | cancelled second finding claimable =>
      exact absurd rfl (goesOn.handled _ _ (List.mem_cons_of_mem _ List.mem_cons_self))
    | unsettled second second' finding what claimable settles =>
      exact absurd (List.mem_cons_of_mem _ (List.mem_cons_of_mem _ List.mem_cons_self)) (goesOn.storable _ what)

/-- What a sweep returns is what is finished in it. -/
theorem Sweep.finished (sweep : Sweep owner candidates list happenings result after) (named : list.Named)
    (distinct : (candidates.map Task.id).Nodup) (returned : result = .ok tally) :
    tally.completed = finished happenings := by
  induction sweep generalizing tally with
  | done list =>
    cases returned
    rfl
  | @next candidate rest list middle after early late first' result first others ih =>
    obtain ⟨once, distinct⟩ := List.nodup_cons.mp distinct
    have named' := first.named named
    cases result with
    | error interruption => cases returned
    | ok total =>
      cases returned
      rw [finished_append, ← first.finished named, ← ih named' distinct rfl]
      · rfl
      · intro call mem
        have own : call.1.id = candidate.id := Option.some.inj (first.taskOf? named _ (mem_calls.mp mem))
        rw [own]
        exact (others.absent named' once).1
      · intro call mem
        refine first.about_other named fun same => once ?_
        rw [same]
        exact (others.calls_sublist named').subset (List.mem_map_of_mem mem)
  | cut first => cases returned

/-- A call of the handler is about its task. -/
theorem mem_about_of_reported {task : Task} {report : HandlerEnd × Finding}
    (mem : reported task report ∈ happenings) :
    reported task report ∈ about task.id happenings :=
  List.mem_filter.mpr ⟨mem, decide_eq_true rfl⟩

/-- A handled task has the status in memory that the end of its handler asks for, and the worker as its owner. -/
theorem Encounter.settles (encounter : Encounter owner key list happenings result after) {task : Task}
    {report : HandlerEnd × Finding} {status : Status} (mem : reported task report ∈ happenings)
    (settles : report.1.settles? = some status) :
    ∃ stored, after.find? key = some stored ∧ stored.status = status ∧ stored.owner = some owner := by
  cases encounter with
  | refused failure refusal closed => cases List.mem_singleton.mp mem
  | unsaved second failure claimable failed expected => cases List.mem_singleton.mp mem
  | unstored second what claimable => cases List.mem_singleton.mp mem
  | cancelled second finding claimable =>
    simp only [List.mem_cons, List.not_mem_nil, or_false] at mem
    rcases mem with same | same
    · cases same
    · cases same
      cases settles
  | @settled task' second second' finding handlerEnd status' answer claimable settles' saved =>
    simp only [List.mem_cons, List.not_mem_nil, or_false] at mem
    rcases mem with same | same | same
    · cases same
    · cases same
      cases settles'.symm.trans settles
      refine ⟨task'.heldBy owner status second', ?_, rfl, rfl⟩
      rw [TaskList.find?_put, if_pos rfl]
    · cases same
  | @unsettled task' second second' finding handlerEnd status' what claimable settles' =>
    simp only [List.mem_cons, List.not_mem_nil, or_false] at mem
    rcases mem with same | same | same
    · cases same
    · cases same
      cases settles'.symm.trans settles
      refine ⟨task'.heldBy owner status second', ?_, rfl, rfl⟩
      rw [TaskList.find?_put, if_pos rfl]
    · cases same

/-- If the claim of the candidate is refused, its record stays. -/
theorem Encounter.list_eq_of_refusal (encounter : Encounter owner key list happenings result after)
    {failure : Failure} (mem : replied ⟨.claim key owner, .error failure⟩ ∈ happenings)
    (refusal : failure.isRefusal = true) :
    after = list := by
  cases encounter with
  | refused failure' refusal' closed => rfl
  | unsaved second failure' claimable failed expected =>
    cases List.mem_singleton.mp mem
    cases failure with
    | unkept how => cases refusal
    | unstorable what => cases refusal
    | _ => cases failed
  | unstored second what claimable =>
    cases List.mem_singleton.mp mem
    cases refusal
  | cancelled second finding claimable =>
    simp only [List.mem_cons, List.not_mem_nil, or_false] at mem
    rcases mem with same | same <;> cases same
  | settled second second' finding answer claimable settles saved =>
    simp only [List.mem_cons, List.not_mem_nil, or_false] at mem
    rcases mem with same | same | same <;> cases same
  | unsettled second second' finding what claimable settles =>
    simp only [List.mem_cons, List.not_mem_nil, or_false] at mem
    rcases mem with same | same | same <;> cases same

section

variable {Job Report : Type} {worker : Worker Job Report Finding}

/-- How the handler is called in a pass. -/
structure Orderly (worker : Worker Job Report Finding) (happenings : Chronicle Finding) : Prop where
  /-- It is called once at most for each task. -/
  once : ((calls happenings).map (·.1.id)).Nodup
  /-- It is called for as many tasks at most as the worker takes at a time. -/
  few : ∀ limit, worker.batchLimit.toInt = .ok limit → (calls happenings).length ≤ max 0 limit
  /-- It is called in the order of the numbers of the tasks. -/
  ordered : ((calls happenings).map (·.1.id)).Pairwise fun a b => Task.numericId a ≤ Task.numericId b
  /-- It is called with tasks in progress that the worker owns, right after their claims were saved. -/
  claimed : ∀ task report, reported task report ∈ happenings →
    task.status = .inProgress ∧ task.owner = some worker.owner ∧ ∃ early late,
      happenings = early ++ replied ⟨.claim task.id worker.owner, .ok task⟩ :: reported task report :: late

/-- How a pass over a list leaves the tasks in memory. -/
structure Leaving (worker : Worker Job Report Finding) (list : TaskList) (happenings : Chronicle Finding)
    (reached : TaskList) : Prop where
  /-- Where the handler returned, the task is completed. -/
  returned : ∀ task finding, reported task (.returned, finding) ∈ happenings → reached.Stands task.id .completed
  /-- Where it failed, the task is pending, and the worker is its owner. -/
  raised : ∀ task finding, reported task (.raised, finding) ∈ happenings →
    ∃ stored, reached.find? task.id = some stored ∧ stored.status = .pending ∧ stored.owner = some worker.owner
  /-- The pending tasks that come after the candidates have the records that they had. -/
  beyond : ∀ limit, worker.batchLimit.toInt = .ok limit → ∀ task ∈ (list.listed (some .pending)).drop limit.toNat,
    reached.find? task.id = list.find? task.id
  /-- So do those whose claims are refused. -/
  refused : ∀ key failure, replied ⟨.claim key worker.owner, .error failure⟩ ∈ happenings →
    failure.isRefusal = true → reached.find? key = list.find? key
  /-- So does everything that was not pending. -/
  others : ∀ key, ¬ list.Stands key .pending → reached.find? key = list.find? key

/-- A pass calls the handler for some of the pending tasks, in the order of the listing. -/
theorem Passed.calls_sublist (passed : Passed worker list happenings result after) (named : list.Named) :
    ((calls happenings).map (·.1.id)).Sublist ((list.listed (some .pending)).map Task.id) := by
  cases passed with
  | unlimited fault limited => exact List.nil_sublist _
  | swept limited sweep => exact (sweep.calls_sublist named).trans ((List.take_sublist _ _).map Task.id)

/-- It calls the handler in an orderly way. -/
theorem Passed.orderly (passed : Passed worker list happenings result after) (named : list.Named) :
    worker.Orderly happenings := by
  have part := passed.calls_sublist named
  have ordered : ((list.listed (some .pending)).map Task.id).Pairwise fun a b =>
      Task.numericId a ≤ Task.numericId b := List.pairwise_map.mpr (list.listed_pairwise (some .pending))
  refine ⟨(nodup_listed named (some .pending)).sublist part, fun limit limited => ?_, ordered.sublist part,
    fun task report mem => ?_⟩
  · cases passed with
    | unlimited fault unlimited => cases unlimited.symm.trans limited
    | swept limited' sweep =>
      cases limited'.symm.trans limited
      have few := (sweep.calls_sublist named).length_le
      rw [List.length_map, List.length_map, List.length_take] at few
      have calls_cons (reply : Reply) (later : Chronicle Finding) :
          calls (replied reply :: later) = calls later := rfl
      rw [calls_cons]
      omega
  · cases passed with
    | unlimited fault limited => cases List.mem_singleton.mp mem
    | swept limited sweep =>
      rcases List.mem_cons.mp mem with same | mem
      · cases same
      · obtain ⟨status, own, early, late, rfl⟩ := sweep.claimed named mem
        exact ⟨status, own, _ :: early, late, rfl⟩

/-- A task that was handled stands where the end of its handler leaves it. -/
theorem Passed.settles (passed : Passed worker list happenings result after) (named : list.Named) {task : Task}
    {report : HandlerEnd × Finding} {status : Status} (mem : reported task report ∈ happenings)
    (settles : report.1.settles? = some status) :
    ∃ stored, after.find? task.id = some stored ∧ stored.status = status ∧ stored.owner = some worker.owner := by
  have own := mem_about_of_reported mem
  rcases passed.history named task.id with ⟨none, -⟩ | ⟨before, tally, middle, -, encounter, -, finish⟩
  · rw [none] at own
    cases own
  · rw [finish]
    exact encounter.settles own settles

/-- It leaves every task as it should. -/
theorem Passed.leaving (passed : Passed worker list happenings result after) (named : list.Named) :
    worker.Leaving list happenings after := by
  refine ⟨fun task finding mem => ?_, fun task finding mem => passed.settles named mem rfl,
    fun limit limited task mem => ?_, fun key failure mem refusal => ?_, fun key idle => ?_⟩
  · obtain ⟨stored, found, status, -⟩ := passed.settles named mem rfl
    exact ⟨stored, found, status⟩
  · cases passed with
    | unlimited fault unlimited => rfl
    | swept limited' sweep =>
      cases limited'.symm.trans limited
      refine (sweep.absent named fun early => ?_).2
      rw [List.map_take] at early
      have late := List.mem_map_of_mem (f := Task.id) mem
      rw [List.map_drop] at late
      exact List.disjoint_take_drop (nodup_listed named (some .pending)) (Nat.le_refl _) early late
  · have own : replied ⟨.claim key worker.owner, .error failure⟩ ∈ about key happenings :=
      List.mem_filter.mpr ⟨mem, decide_eq_true rfl⟩
    rcases passed.history named key with ⟨-, same⟩ | ⟨before, tally, middle, -, encounter, start, finish⟩
    · exact same
    · rw [finish, encounter.list_eq_of_refusal own refusal, start]
  · rcases passed.history named key with ⟨-, same⟩ | ⟨before, tally, middle, -, encounter, start, finish⟩
    · exact same
    · rw [finish]
      rcases encounter.change with rfl | ⟨task, status, second, ⟨found, pending, -⟩, -⟩
      · exact start
      · exact absurd ⟨task, start.symm.trans found, pending⟩ idle

/-- It returns unless the handler is cancelled, the list cannot be put in its file, or the worker cannot tell how many
tasks to take. -/
theorem Passed.returns (passed : Passed worker list happenings result after) {limit : Int}
    (limited : worker.batchLimit.toInt = .ok limit) (goesOn : GoesOn happenings) : ∃ tally, result = .ok tally := by
  cases passed with
  | unlimited fault unlimited => cases unlimited.symm.trans limited
  | swept limited' sweep => exact sweep.returns (goesOn.mono (List.subset_cons_self _ _))

/-- What it returns is what is finished in it. -/
theorem Passed.finished (passed : Passed worker list happenings (.ok tally) after) (named : list.Named) :
    tally.completed = finished happenings := by
  cases passed with
  | swept limited sweep =>
    rw [sweep.finished named (distinct_listed named _ _) rfl]
    rfl

end

/-- A pass of a worker that has its list for itself, over a list whose tasks are stored under their own identifiers,
with the counters in memory ahead as they are in every run of a new store: the handler is called in an orderly way,
every task is left as it should be, and unless the handler is cancelled or the list cannot be put in its file the pass
returns. The tasks that it returns are those over which the handler returned and whose completion was saved, in the
order of the calls, and each of them is completed in memory and in the file at the end. Handlers may report what they like, each save may fail, and
anything may change meanwhile but the list, its file, the desk and the clock. -/
theorem pass_accounts {Job Report : Type} [Inhabited Finding] (worker : Worker Job Report Finding)
    (workspace : Workspace) (list : TaskList) (shows : workspace.Shows worker.desk worker.listId list)
    (ahead : (workspace.desk worker.desk).store.Ahead) (named : list.Named) (happenings : Chronicle Finding)
    (result : Except Interruption (Tally Finding)) (after : Workspace)
    (ran : Script.Ran (Workspace.LeavesAlone worker.desk worker.listId) worker.handingOut.pass.run workspace
      happenings result after) :
    ∃ reached, after.Holds worker.desk worker.listId reached ∧ worker.Orderly happenings ∧
      worker.Leaving list happenings reached ∧
      (∀ limit, worker.batchLimit.toInt = .ok limit → GoesOn happenings → ∃ tally, result = .ok tally) ∧
      ∀ tally, result = .ok tally → tally.completed = finished happenings ∧
        ∀ key ∈ tally.completed, reached.Stands key .completed ∧
          worker.alone.Stored after key .completed := by
  have quiet : worker.Undisturbed (Workspace.LeavesAlone worker.desk worker.listId) :=
    fun _ _ drifted => drifted.toLetsBe
  obtain ⟨reached, sees, passed⟩ := ran_pass quiet named shows ran
  refine ⟨reached, sees, passed.orderly named, passed.leaving named, fun limit => passed.returns, ?_⟩
  rintro tally rfl
  refine ⟨passed.finished named, fun key mem => ?_⟩
  obtain ⟨⟨list', held, stands⟩, stored⟩ :=
    finished_kept quiet (fun _ _ drifted => drifted.toSpares) named ahead shows ran key mem
  cases sees.held.symm.trans held
  exact ⟨stands, stored⟩

/-- Two pending tasks. -/
def pair : TaskList := single.grown "t" "" 6

/-- A worker whose handler always returns, and leaves no space for saves when it is done with the second task. -/
def filling : Worker Empty Unit Unit :=
  ⟨0, "l", "w", .whole 32, fun task =>
    if task.id = "2" then
      .instant (fun workspace => { workspace with breakdown := some (.atOnce "no space") })
        fun _ => .done (.returned, ())
    else .done (.returned, ())⟩

/-- Such a handler leaves the list alone. -/
theorem leavesAlone_filling (task : Task) (workspace : Workspace) :
    Workspace.LeavesAlone 0 "l" workspace ((filling.handler task).run nobody workspace).2 := by
  rw [filling]
  dsimp only
  split
  · exact .breaking workspace (some (.atOnce "no space"))
  · exact .refl workspace

/-- Both tasks are listed. -/
theorem listed_pair : pair.listed (some .pending) = [.fresh "1" "s" "" 5, .fresh "2" "t" "" 6] := by
  rw [TaskList.listed_of_ordered _ (by decide +kernel)]
  rfl

/-- When the second task is not saved as completed, the pass returns the first one only. That one is completed in
memory and in the file. -/
theorem pass_accounts_filling :
    let workspace := (Script.run nobody filling.pass.run (offering pair none)).2
    (Script.run nobody filling.pass.run (offering pair none)).1 = .ok ⟨["1"], [(), ()]⟩ ∧
      ∃ reached, workspace.Holds 0 "l" reached ∧ reached.Stands "1" .completed ∧
        filling.alone.Stored workspace "1" .completed := by
  intro workspace
  have sees : filling.Sees (offering pair none) pair := sees_offering .returned pair none
  have named : ∀ entry ∈ pair.tasks.entries, entry.2.id = entry.1 := by decide
  have counter : pair.CounterAhead := ⟨by decide, by decide +kernel⟩
  have ahead : ((offering pair none).desk 0).store.Ahead := (Store.ahead_empty ⟨.here, ["d"]⟩ 0).hold counter
  have returned : (Script.run nobody filling.pass.run (offering pair none)).1 = .ok ⟨["1"], [(), ()]⟩ := by
    rw [run_pass, run_swept _ sees rfl, listed_pair]
    decide +kernel
  have ran := (Workspace.LeavesAlone.allows leavesAlone_filling).ran filling.handingOut.pass.run (offering pair none)
  rw [← run_pass] at ran
  obtain ⟨reached, holds, -, -, -, accounts⟩ := pass_accounts filling _ pair sees.toShows ahead named _ _ _ ran
  obtain ⟨-, done⟩ := accounts ⟨["1"], [(), ()]⟩ returned
  obtain ⟨stands, stored⟩ := done "1" (List.mem_singleton.mpr rfl)
  exact ⟨returned, reached, holds, stands, stored⟩

end Worker

end Taskboard
