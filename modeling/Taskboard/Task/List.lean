import Taskboard.Keyed
import Taskboard.Task.Basic

/-!
# Task lists

A list holds tasks under keys and a counter for the next identifier. New tasks are stored under the
decimal text of the counter, which therefore has to stay above the number of every key.
-/

namespace Taskboard

/-- Tasks by key, and the counter for the next identifier. -/
structure TaskList where
  /-- Number of the next task. -/
  nextId : Nat
  /-- Tasks in the order in which their keys were first stored. -/
  tasks : Keyed Task
deriving DecidableEq

namespace TaskList

/-- A list without tasks. -/
def empty : TaskList := ⟨1, .empty⟩

instance : Inhabited TaskList := ⟨empty⟩

/-- Takes the next identifier; a counter with too many digits gives none and stays. -/
def allocate? (list : TaskList) : Option (Text × TaskList) :=
  if Decimal.tooLong list.nextId then none
  else some (Decimal.natText list.nextId, { list with nextId := list.nextId + 1 })

/-- The task under a key. -/
def find? (list : TaskList) (key : Text) : Option Task := list.tasks.find? key

/-- Stores a task under a key. -/
def put (list : TaskList) (key : Text) (task : Task) : TaskList :=
  { list with tasks := list.tasks.put key task }

/-- The tasks by the numbers of their identifiers, equal numbers in stored order. -/
def sorted (list : TaskList) : List Task :=
  list.tasks.values.mergeSort fun a b => Task.numericId a.id ≤ Task.numericId b.id

/-- The tasks in listed order, of one status or of all. -/
def listed (list : TaskList) (status : Option Status) : List Task :=
  list.sorted.filter fun task => status.all (task.status = ·)

/-- Whether a task is stored under a key and completed. -/
def isCompleted (list : TaskList) (key : Text) : Bool :=
  match list.find? key with
  | some task => task.status = .completed
  | none => false

/-- The dependencies of a task that are not completed tasks of the list, in order and with
repetitions. -/
def incompleteDependencies (list : TaskList) (task : Task) : List Text :=
  task.blockedBy.filter fun key => !list.isCompleted key

/-- The greatest number of a key; zero for a list without tasks. -/
def highest (list : TaskList) : Int :=
  match list.tasks.keys.map Task.numericId with
  | [] => 0
  | n :: rest => rest.foldl max n

end TaskList

end Taskboard
