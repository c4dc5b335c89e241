import Taskboard.Proofs.Task.Record
import Taskboard.Store.Operation

/-!
# What an operation does to a list

An operation that changes a list makes one new task under the next identifier, or puts a changed task in
place of the one under a key. `TaskList.Becomes` lists the three ways with their guards; everything
that a change keeps is derived from it, above all that the counter stays ahead of the keys.
-/

namespace Taskboard

/-- Whether an operation is a change of the list, and not only a question. -/
def Operation.isChange : Operation → Bool
  | .create .. | .update .. | .claim .. => true
  | .list _ | .get _ => false

/-- The changed list that a verdict leaves in memory, if it leaves one. -/
def Verdict.left? {α : Type} : Verdict α → Option TaskList
  | .changed list _ | .brokenOff list _ => some list
  | .refused _ | .answered _ => none

namespace Task

/-- A task with the second of its change noted, if the clock shows one. -/
def touched (task : Task) : Except QuantityFault Int → Task
  | .ok now => task.touch now
  | .error _ => task

/-- A task given to an owner. -/
def claimedBy (task : Task) (owner : Text) : Task :=
  { task with owner := some owner, status := .inProgress }

end Task

namespace TaskList

/-- A list with a new task under the next identifier. -/
def grown (list : TaskList) (subject description : Text) (second : Int) : TaskList :=
  { list with nextId := list.nextId + 1 }.put (Decimal.natText list.nextId)
    (.fresh (Decimal.natText list.nextId) subject description second)

/-- What a list may become through an operation at a second that the clock shows, or fails to show. -/
inductive Becomes (list : TaskList) (now : Except QuantityFault Int) :
    Operation → TaskList → Prop where
  /-- A new task takes the next identifier. -/
  | created {subject description : Text} {second : Int} (shown : now = .ok second)
      (short : Decimal.tooLong list.nextId = false) :
      Becomes list now (.create subject description) (list.grown subject description second)
  /-- Fields of a stored task are replaced. -/
  | updated {taskId : Text} {change : Change} {task : Task} (found : list.find? taskId = some task) :
      Becomes list now (.update taskId change)
        (list.put taskId ((task.apply change).touched now))
  /-- A stored task that is pending and waits for nothing is given to an owner. -/
  | claimed {taskId owner : Text} {task : Task} (found : list.find? taskId = some task)
      (pending : task.status = .pending) (free : list.incompleteDependencies task = []) :
      Becomes list now (.claim taskId owner)
        (list.put taskId ((task.claimedBy owner).touched now))

variable {list after : TaskList} {listId : Text} {now : Except QuantityFault Int}

/-- A new task needs a second and a counter that can be written. -/
theorem create_verdict (subject description : Text) :
    (list.create listId subject description now).verdict =
      match now with
      | .error fault => .refused (.quantity fault)
      | .ok second =>
        if Decimal.tooLong list.nextId then .refused .counterTooLong
        else .changed (list.grown subject description second)
          (.fresh (Decimal.natText list.nextId) subject description second) := by
  unfold create allocate? grown
  generalize Decimal.tooLong list.nextId = long
  cases now <;> cases long <;> rfl

/-- What is put in place of a task is that task with the time noted. -/
theorem replace_left? (taskId : Text) (task : Task) (entry : Entry) :
    (list.replace taskId task now entry).verdict.left? =
      some (list.put taskId (task.touched now)) := by
  cases now <;> rfl

/-- An update changes every task that is found. -/
theorem update_left? (taskId : Text) (change : Change) :
    (list.update listId taskId change now).verdict.left? =
      (list.find? taskId).map fun task => list.put taskId ((task.apply change).touched now) := by
  unfold update
  cases list.find? taskId with
  | none => rfl
  | some task => exact replace_left? taskId (task.apply change) _

/-- A claim changes a task that is found, is pending and waits for nothing. -/
theorem claim_left? (taskId owner : Text) :
    (list.claim listId taskId owner now).verdict.left? =
      (list.find? taskId).bind fun task =>
        if task.status = .pending ∧ list.incompleteDependencies task = [] then
          some (list.put taskId ((task.claimedBy owner).touched now))
        else none := by
  unfold claim
  cases list.find? taskId with
  | none => rfl
  | some task =>
    by_cases pending : task.status = .pending
    · cases free : list.incompleteDependencies task with
      | nil => simpa [pending, free, Task.claimedBy] using replace_left? taskId (task.claimedBy owner) _
      | cons key keys => simp [pending, free, Verdict.left?]
    · simp [pending, Verdict.left?]

/-- A changed list has come about in one of the listed ways. -/
theorem becomes_of_left? {operation : Operation}
    (h : (list.attempt listId now operation).verdict.left? = some after) :
    Becomes list now operation after := by
  cases operation with
  | create subject description =>
    rw [attempt, create_verdict] at h
    split at h
    · cases h
    · next second =>
      split at h
      · cases h
      · next short =>
        cases h
        exact .created rfl (Bool.eq_false_iff.mpr short)
  | list status => cases h
  | get taskId => cases h
  | update taskId change =>
    obtain ⟨task, found, rfl⟩ := Option.map_eq_some_iff.mp ((update_left? taskId change).symm.trans h)
    exact .updated found
  | claim taskId owner =>
    obtain ⟨task, found, h⟩ := Option.bind_eq_some_iff.mp ((claim_left? taskId owner).symm.trans h)
    split at h
    · next free =>
      cases h
      exact .claimed found free.1 free.2
    · cases h

/-- Only a question is answered without a change. -/
theorem isChange_of_answered {operation : Operation} {answer : operation.Answer}
    (h : (list.attempt listId now operation).verdict = .answered answer) :
    operation.isChange = false := by
  have replaced (taskId : Text) (task : Task) (entry : Entry) (answer : Task) :
      (list.replace taskId task now entry).verdict ≠ .answered answer := by
    cases now <;> exact fun e => nomatch e
  cases operation with
  | create subject description =>
    rw [attempt, create_verdict] at h
    split at h
    · cases h
    · split at h <;> cases h
  | list status => rfl
  | get taskId => rfl
  | update taskId change =>
    simp only [attempt, update] at h
    split at h
    · cases h
    · exact absurd h (replaced _ _ _ _)
  | claim taskId owner =>
    simp only [attempt, claim] at h
    split at h
    · cases h
    · split at h
      · cases h
      · split at h
        · exact absurd h (replaced _ _ _ _)
        · cases h

/-- An operation breaks off over a change only where the clock shows no second. -/
theorem now_of_brokenOff {operation : Operation} {failure : Failure}
    (h : (list.attempt listId now operation).verdict = .brokenOff after failure) :
    ∃ fault, now = .error fault := by
  have replaced (taskId : Text) (task : Task) (entry : Entry)
      (h : (list.replace taskId task now entry).verdict = .brokenOff after failure) :
      ∃ fault, now = .error fault := by
    cases now with
    | error fault => exact ⟨fault, rfl⟩
    | ok second => cases h
  cases operation with
  | create subject description =>
    rw [attempt, create_verdict] at h
    split at h
    · cases h
    · split at h <;> cases h
  | list status => cases h
  | get taskId => cases h
  | update taskId change =>
    simp only [attempt, update] at h
    split at h
    · cases h
    · exact replaced _ _ _ h
  | claim taskId owner =>
    simp only [attempt, claim] at h
    split at h
    · cases h
    · split at h
      · cases h
      · split at h
        · exact replaced _ _ _ h
        · cases h

/-- The keys of a list with one more task. -/
theorem mem_keys_put {key other : Text} {task : Task} :
    other ∈ (list.put key task).tasks.keys ↔ other = key ∨ other ∈ list.tasks.keys := by
  have keys := list.tasks.keys_put key task
  rw [put, keys]
  split
  · next mem =>
    constructor
    · exact .inr
    · rintro (rfl | other)
      · exact mem
      · exact other
  · rw [List.mem_append, List.mem_singleton, or_comm]

/-- A task that is found has its key in the list. -/
theorem mem_keys_of_find? {key : Text} {task : Task} (h : list.find? key = some task) :
    key ∈ list.tasks.keys := by
  rw [← Keyed.find?_isSome_iff]
  exact Option.isSome_of_eq_some h

/-- The identifier of a task to come is not a key. -/
theorem CounterAhead.notMem (ahead : list.CounterAhead) (short : Decimal.tooLong list.nextId = false) :
    Decimal.natText list.nextId ∉ list.tasks.keys := by
  intro mem
  have past := ahead.past _ mem
  rw [Task.numericId_natText short] at past
  omega

/-- Finding tasks after one was put. -/
theorem find?_put {key other : Text} {task : Task} :
    (list.put key task).find? other = if other = key then some task else list.find? other :=
  Keyed.find?_put list.tasks key task other

/-- A new task leaves the others where they are. -/
theorem CounterAhead.find?_grown (ahead : list.CounterAhead)
    (short : Decimal.tooLong list.nextId = false) {key : Text} {task : Task}
    (found : list.find? key = some task) (subject description : Text) (second : Int) :
    (list.grown subject description second).find? key = some task := by
  have ne : key ≠ Decimal.natText list.nextId :=
    fun e => ahead.notMem short (e ▸ mem_keys_of_find? found)
  rw [grown, find?_put, if_neg ne]
  exact found

/-- Putting a task in place of a stored one leaves the counter ahead. -/
theorem CounterAhead.put (ahead : list.CounterAhead) {key : Text} {task : Task}
    (found : list.find? key = some task) (replacement : Task) :
    (list.put key replacement).CounterAhead := by
  refine ⟨ahead.positive, fun other mem => ahead.past other ?_⟩
  rcases mem_keys_put.mp mem with rfl | mem
  · exact mem_keys_of_find? found
  · exact mem

/-- Every change keeps the counter ahead of the keys. -/
theorem CounterAhead.becomes (ahead : list.CounterAhead) {operation : Operation}
    (h : Becomes list now operation after) : after.CounterAhead := by
  cases h with
  | created shown short =>
    have positive := ahead.positive
    refine ⟨Nat.le_add_left 1 list.nextId, fun key mem => ?_⟩
    show Task.numericId key < ((list.nextId + 1 : Nat) : Int)
    rcases mem_keys_put.mp mem with rfl | mem
    · rw [Task.numericId_natText short]
      omega
    · have := ahead.past key mem
      omega
  | updated found => exact ahead.put found _
  | claimed found pending free => exact ahead.put found _

end TaskList

end Taskboard
