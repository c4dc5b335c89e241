import Taskboard.Proofs.Store.Storable
import Taskboard.Proofs.Store.Times
import Taskboard.Proofs.Tool.Intact

/-!
# What a claim comes to

A claim asks three questions, in this order: is there a task, is it pending, and does it wait for anything. The
first answer that speaks against it decides, and then nothing is changed. Otherwise the task is given to its owner
in memory, and the claim answers with it unless the list is not saved or cannot be put in its file. A task waits
for every dependency under which no completed task is stored: one that was never made, itself, and each of a
circle of tasks among them.
-/

namespace Taskboard

namespace TaskList

/-- Whether a dependency is still to be waited for: no completed task is stored under it. -/
def Unmet (list : TaskList) (dependency : Text) : Prop :=
  ∀ task, list.find? dependency = some task → task.status ≠ .completed

variable {list after : TaskList} {listId taskId owner dependency : Text} {now : Int} {task : Task}
  {result : Except Failure Task}

theorem unmet_iff : list.Unmet dependency ↔ list.isCompleted dependency = false := by
  unfold Unmet isCompleted
  cases list.find? dependency with
  | none => simp
  | some task => simp

instance (list : TaskList) (dependency : Text) : Decidable (list.Unmet dependency) :=
  decidable_of_iff _ unmet_iff.symm

/-- What a task waits for are its dependencies that are still to be waited for. -/
theorem incompleteDependencies_eq (list : TaskList) (task : Task) :
    list.incompleteDependencies task = task.blockedBy.filter (list.Unmet ·) := by
  refine List.filter_congr fun dependency _ => ?_
  rw [Bool.eq_iff_iff, decide_eq_true_eq, unmet_iff, Bool.not_eq_true']

/-- A task waits for nothing if none of its dependencies is still to be waited for. -/
theorem incompleteDependencies_eq_nil :
    list.incompleteDependencies task = [] ↔ ∀ dependency ∈ task.blockedBy, ¬ list.Unmet dependency := by
  rw [incompleteDependencies_eq, List.filter_eq_nil_iff]
  simp only [decide_eq_true_eq]

/-- How a claim is decided at a second: its result, and the list afterwards. -/
inductive Decided (list : TaskList) (taskId owner : Text) (now : Int) :
    Except Failure Task → TaskList → Prop where
  /-- There is no such task. -/
  | absent (missing : list.find? taskId = none) :
      Decided list taskId owner now (.error (.notFound taskId)) list
  /-- The task is not pending. -/
  | taken {task : Task} (found : list.find? taskId = some task) (status : task.status ≠ .pending) :
      Decided list taskId owner now (.error (.notClaimable taskId task.status.word)) list
  /-- The task waits for some of its dependencies, in their order and as often as they are named. -/
  | waits {task : Task} (found : list.find? taskId = some task) (pending : task.status = .pending)
      {dependency : Text} (mem : dependency ∈ task.blockedBy) (unmet : list.Unmet dependency) :
      Decided list taskId owner now (.error (.blocked taskId (task.blockedBy.filter (list.Unmet ·)))) list
  /-- The task is given to the owner, and then saved or not. -/
  | claimed {task : Task} {result : Except Failure Task} (found : list.find? taskId = some task)
      (pending : task.status = .pending) (met : ∀ dependency ∈ task.blockedBy, ¬ list.Unmet dependency)
      (answer : result = .ok ((task.claimedBy owner).touch now) ∨ (∃ how, result = .error (.unkept how)) ∨
        ∃ what, result = .error (.unstorable what)) :
      Decided list taskId owner now result (list.put taskId ((task.claimedBy owner).touch now))

/-- A claim is refused, and decided by that, or the task waits for nothing and is given to the owner. -/
theorem claim_verdict (list : TaskList) (listId taskId owner : Text) (now : Int) :
    (∃ failure, (list.claim listId taskId owner (.ok now)).verdict = .refused failure ∧
        list.Decided taskId owner now (.error failure) list) ∨
      ∃ task, list.find? taskId = some task ∧ task.status = .pending ∧
        (∀ dependency ∈ task.blockedBy, ¬ list.Unmet dependency) ∧
        (list.claim listId taskId owner (.ok now)).verdict =
          .changed (list.put taskId ((task.claimedBy owner).touch now)) ((task.claimedBy owner).touch now) := by
  unfold claim
  cases found : list.find? taskId with
  | none => exact .inl ⟨_, rfl, .absent found⟩
  | some task =>
    by_cases pending : task.status = .pending
    · simp only [pending, ne_eq, not_true_eq_false, if_false]
      cases waits : list.incompleteDependencies task with
      | nil => exact .inr ⟨task, rfl, pending, incompleteDependencies_eq_nil.mp waits, rfl⟩
      | cons dependency rest =>
        rw [incompleteDependencies_eq] at waits
        have named : dependency ∈ task.blockedBy.filter (list.Unmet ·) := waits ▸ List.mem_cons_self
        obtain ⟨mem, unmet⟩ := List.mem_filter.mp named
        refine .inl ⟨_, rfl, ?_⟩
        rw [← waits]
        exact .waits found pending mem (of_decide_eq_true unmet)
    · simp only [ne_eq, pending, not_false_eq_true, if_true]
      exact .inl ⟨_, rfl, .taken found pending⟩

namespace Decided

/-- Only a missing task is reported as missing. -/
theorem notFound_iff (h : list.Decided taskId owner now result after) :
    (∃ key, result = .error (.notFound key)) ↔ list.find? taskId = none := by
  cases h with
  | absent missing => simp [missing]
  | taken found status => simp [found]
  | waits found pending mem unmet => simp [found]
  | claimed found pending met answer => rcases answer with rfl | ⟨how, rfl⟩ | ⟨what, rfl⟩ <;> simp [found]

/-- Only a task that is not pending is reported with its status. -/
theorem notClaimable_iff (h : list.Decided taskId owner now result after) :
    (∃ key word, result = .error (.notClaimable key word)) ↔
      ∃ task, list.find? taskId = some task ∧ task.status ≠ .pending := by
  cases h with
  | absent missing => simp [missing]
  | taken found status => simp [found, status]
  | waits found pending mem unmet => simp [found, pending]
  | claimed found pending met answer => rcases answer with rfl | ⟨how, rfl⟩ | ⟨what, rfl⟩ <;> simp [found, pending]

/-- Only a pending task is reported as blocked, and only while a dependency is still to be waited for. -/
theorem blocked_iff (h : list.Decided taskId owner now result after) :
    (∃ key keys, result = .error (.blocked key keys)) ↔
      ∃ task, list.find? taskId = some task ∧ task.status = .pending ∧
        ∃ dependency ∈ task.blockedBy, list.Unmet dependency := by
  cases h with
  | absent missing => simp [missing]
  | taken found status => simp [found, status]
  | @waits task found pending dependency mem unmet =>
    exact ⟨fun _ => ⟨task, found, pending, dependency, mem, unmet⟩, fun _ => ⟨_, _, rfl⟩⟩
  | @claimed task result found pending met answer =>
    constructor
    · rintro ⟨key, keys, rfl⟩
      rcases answer with e | ⟨how, e⟩ | ⟨what, e⟩ <;> cases e
    · rintro ⟨task', found', -, dependency, mem, unmet⟩
      cases found.symm.trans found'
      exact absurd unmet (met dependency mem)

/-- A claim on a pending task names what the task waits for, if that is anything. -/
theorem of_waits (h : list.Decided taskId owner now result after) (found : list.find? taskId = some task)
    (pending : task.status = .pending) (mem : dependency ∈ task.blockedBy) (unmet : list.Unmet dependency) :
    result = .error (.blocked taskId (task.blockedBy.filter (list.Unmet ·))) ∧ after = list := by
  cases h with
  | absent missing => cases found.symm.trans missing
  | taken found' status =>
    cases found.symm.trans found'
    exact absurd pending status
  | waits found' pending' mem' unmet' =>
    cases found.symm.trans found'
    exact ⟨rfl, rfl⟩
  | claimed found' pending' met answer =>
    cases found.symm.trans found'
    exact absurd unmet (met dependency mem)

/-- The counter, the stored order and all other tasks are as they were. -/
theorem frame (h : list.Decided taskId owner now result after) :
    after.nextId = list.nextId ∧ after.tasks.keys = list.tasks.keys ∧
      ∀ other, other ≠ taskId → after.find? other = list.find? other := by
  cases h with
  | claimed found pending met answer =>
    refine ⟨rfl, ?_, fun other ne => ?_⟩
    · rw [put, Keyed.keys_put, if_pos (mem_keys_of_find? found)]
    · rw [find?_put, if_neg ne]
  | _ => exact ⟨rfl, rfl, fun _ _ => rfl⟩

end Decided

end TaskList

namespace Store

open TaskList

variable {store : Store} {listId : Text} {list : TaskList} {host : Host}

/-- An operation that does not change the opened list does not change the disk. -/
theorem Course.disk_of_idle {operation : Operation} {outcome : Outcome operation.Answer}
    (h : Course store listId operation host outcome) (opened : store.openedList listId host = .ok list)
    (idle : (list.attempt listId host.clock.second operation).verdict.left? = none) :
    outcome.disk = host.disk := by
  cases h with
  | unopened failure entries failed => rfl
  | unchanged result entries opened' idle' honest => rfl
  | unsaved failure entries opened' left undated => rfl
  | saved entries opened' changed course =>
    cases opened.symm.trans opened'
    rw [changed] at idle
    cases idle

/-- A save that fails under an identifier that names a file is a failure to keep the list, or the list cannot be put in
its file. -/
theorem unkept_or_unstorable_of_save {failure : Failure} (named : ∃ path, store.filePath listId = .ok path)
    (failed : ((store.hold listId list).save listId list host).result = .error failure) :
    (∃ how, failure = .unkept how) ∨ ∃ what, failure = .unstorable what := by
  obtain ⟨path, named⟩ := named
  rcases (saved_save (store.hold listId list) listId list host).reason failed with unnamed | lost
  · cases named.symm.trans unnamed
  · cases failure with
    | unkept how => exact .inl ⟨how, rfl⟩
    | unstorable what => exact .inr ⟨what, rfl⟩
    | _ => cases lost

/-- A claim on an opened list is decided, and unless the task is given away the disk stays as it is. -/
theorem decided_perform (taskId owner : Text) {now : Int} (dated : dated host)
    (shown : host.clock.second = .ok now) (named : ∃ path, store.filePath listId = .ok path)
    (opened : store.openedList listId host = .ok list) :
    ∃ after, (store.perform listId (.claim taskId owner) host).store.lists.find? listId = some after ∧
      list.Decided taskId owner now (store.perform listId (.claim taskId owner) host).result after ∧
      ((∀ task, list.find? taskId = some task → task.status = .pending →
          ∃ dependency ∈ task.blockedBy, list.Unmet dependency) →
        after = list ∧ (store.perform listId (.claim taskId owner) host).disk = host.disk) := by
  have course := course_perform store listId (.claim taskId owner) host
  have held := course.held opened
  rcases list.claim_verdict listId taskId owner now with
    ⟨failure, verdict, decided⟩ | ⟨task, found, pending, met, verdict⟩
  · have refused : (list.attempt listId host.clock.second (.claim taskId owner)).verdict = .refused failure := by
      rw [shown]
      exact verdict
    have idle : (list.attempt listId host.clock.second (.claim taskId owner)).verdict.left? = none := by
      rw [refused]
      rfl
    rw [idle] at held
    refine ⟨list, held, ?_, fun _ => ⟨rfl, course.disk_of_idle opened idle⟩⟩
    rw [result_perform dated, opened]
    dsimp only
    rw [refused]
    exact decided
  · have changed : (list.attempt listId host.clock.second (.claim taskId owner)).verdict =
        .changed (list.put taskId ((task.claimedBy owner).touch now)) ((task.claimedBy owner).touch now) := by
      rw [shown]
      exact verdict
    rw [changed] at held
    refine ⟨_, held, .claimed found pending met ?_, fun closed => ?_⟩
    · rw [result_perform dated, opened]
      dsimp only
      rw [changed]
      dsimp only
      cases saved : ((store.hold listId (list.put taskId ((task.claimedBy owner).touch now))).save listId
          (list.put taskId ((task.claimedBy owner).touch now)) host).result with
      | ok done => exact .inl rfl
      | error failure =>
        rcases unkept_or_unstorable_of_save named saved with ⟨how, rfl⟩ | ⟨what, rfl⟩
        · exact .inr (.inl ⟨how, rfl⟩)
        · exact .inr (.inr ⟨what, rfl⟩)
    · obtain ⟨dependency, mem, unmet⟩ := closed task found pending
      exact absurd unmet (met dependency mem)

end Store

namespace Site

/-- In every run, a claim on a list that is opened is decided by the list alone: it reports a missing task exactly
if none is stored, else one that is not pending, else a pending one that waits for something, with what it waits for;
otherwise the task is given to the owner, and the claim answers with it or says that the list was not kept, or that it
cannot be put in its file, which it says exactly if that is so, and never of a plain list and a plain owner where the
path of the file can be spelled. A refusal changes neither the list nor the disk. In any case the counter, the stored
order and every other task are as they were. -/
theorem claim_decides (dataFolder : Path) (disk : Disk) (spare : Nat) (before : List Event)
    (listId taskId owner : Text) (moment : Moment) (dates : moment.dates) (now : Int)
    (shown : moment.clock.second = .ok now) (list : TaskList)
    (loaded : ((opened dataFolder disk spare).run before).store.openedList listId
      (moment.host ((opened dataFolder disk spare).run before).disk) = .ok list) :
    let site := (opened dataFolder disk spare).run before
    let outcome := site.outcome moment listId (.claim taskId owner)
    ((∃ key, outcome.result = .error (.notFound key)) ↔ list.find? taskId = none) ∧
    ((∃ key word, outcome.result = .error (.notClaimable key word)) ↔
      ∃ task, list.find? taskId = some task ∧ task.status ≠ .pending) ∧
    ((∃ key keys, outcome.result = .error (.blocked key keys)) ↔
      ∃ task, list.find? taskId = some task ∧ task.status = .pending ∧
        ∃ dependency ∈ task.blockedBy, list.Unmet dependency) ∧
    (∀ what, outcome.result = .error (.unstorable what) ↔
      ∃ changed task, (list.claim listId taskId owner (.ok now)).verdict = .changed changed task ∧
        site.store.Unputtable listId changed (moment.host site.disk) what) ∧
    ((∀ path, site.store.filePath listId = .ok path → path.Spelled) → list.IsPlain → owner.IsPlain →
      ∀ what, outcome.result ≠ .error (.unstorable what)) ∧
    ∃ after, outcome.store.lists.find? listId = some after ∧
      list.Decided taskId owner now outcome.result after ∧
      ((∀ task, list.find? taskId = some task → task.status = .pending →
          ∃ dependency ∈ task.blockedBy, list.Unmet dependency) →
        after = list ∧ outcome.disk = site.disk) ∧
      after.nextId = list.nextId ∧ after.tasks.keys = list.tasks.keys ∧
      ∀ other, other ≠ taskId → after.find? other = list.find? other := by
  intro site outcome
  have named := (filed_opened dataFolder disk spare before).named loaded
  have dated : Store.dated (moment.host site.disk) := ⟨⟨now, shown⟩, dates now shown⟩
  obtain ⟨after, held, decided, refused⟩ :=
    Store.decided_perform taskId owner dated shown named loaded
  refine ⟨decided.notFound_iff, decided.notClaimable_iff, decided.blocked_iff, fun what => ?_,
    fun spelled plain owned what failed => ?_, after, held, decided, refused, decided.frame⟩
  · rw [← shown]
    exact Store.unstorable_iff dated loaded
  · obtain ⟨changed, task, verdict, unputtable⟩ := (Store.unstorable_iff dated loaded).mp failed
    have given : (Operation.claim taskId owner).IsPlain := List.forall_mem_singleton.mpr owned
    exact Store.not_unputtable_of_changed spelled plain given verdict unputtable

/-- Events that leave a task with dependencies of all kinds: on itself, on a completed task, and twice on a task that
was never made. -/
def tangling : List Event :=
  [.call (.calm 5) "l" (.create "s" ""), .call (.calm 6) "l" (.create "t" ""),
    .call (.calm 7) "l" (.update "1" ⟨none, none, none, none, some ["9", "1", "2", "9"]⟩),
    .call (.calm 7) "l" (.update "2" (.toStatus .completed))]

/-- The list that they leave. -/
def tangled : TaskList :=
  ⟨3, .ofList [("1", ⟨"1", "s", "", .pending, 5, 7, none, [], ["9", "1", "2", "9"]⟩),
    ("2", ⟨"2", "t", "", .completed, 6, 7, none, [], []⟩)]⟩

/-- The task waits for itself and twice for the one that was never made. -/
theorem claim_decides_tangled :
    let site := (opened ⟨.here, ["d"]⟩ .empty 0).run tangling
    let outcome := site.outcome (.calm 8) "l" (.claim "1" "w")
    outcome.result = .error (.blocked "1" ["9", "1", "9"]) ∧
      outcome.store.lists.find? "l" = some tangled ∧ outcome.disk = site.disk := by
  have held : ((opened ⟨.here, ["d"]⟩ .empty 0).run tangling).store.lists.find? "l" = some tangled := by
    decide +kernel
  have dates : (Moment.calm 8).dates := fun _ _ _ => ⟨_, rfl⟩
  have found : tangled.find? "1" =
      some ⟨"1", "s", "", .pending, 5, 7, none, [], ["9", "1", "2", "9"]⟩ := by decide +kernel
  have unmet : tangled.Unmet "9" := by decide +kernel
  have waits : (["9", "1", "2", "9"] : List Text).filter (tangled.Unmet ·) = ["9", "1", "9"] := by decide +kernel
  obtain ⟨-, -, -, -, -, after, held', decided, refused, -⟩ :=
    claim_decides ⟨.here, ["d"]⟩ .empty 0 tangling "l" "1" "w" (.calm 8) dates 8 rfl tangled
      (Store.openedList_of_held held)
  have closed (task : Task) (found' : tangled.find? "1" = some task) (_ : task.status = .pending) :
      ∃ dependency ∈ task.blockedBy, tangled.Unmet dependency := by
    cases found.symm.trans found'
    exact ⟨"9", by simp, unmet⟩
  obtain ⟨rfl, still⟩ := refused closed
  have named : ("9" : Text) ∈ (["9", "1", "2", "9"] : List Text) := List.mem_cons_self
  have blocked := (decided.of_waits found rfl named unmet).1
  rw [waits] at blocked
  exact ⟨blocked, held', still⟩

end Site

end Taskboard
