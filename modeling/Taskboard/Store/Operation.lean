import Taskboard.Failure
import Taskboard.Log

/-!
# Operations on one list

The five things a caller can ask of a list, and what each does to a list that is in memory: it is
refused, it answers without a change, it answers with a changed list that still has to be saved, or it
breaks off over a change. A change needs the second at which it is made; a clock that shows none stops a
new task before it is made, and any other change before its time is written down.
-/

namespace Taskboard

/-- A question or an order to one list. -/
inductive Operation where
  /-- Make a pending task. -/
  | create (subject description : Text)
  /-- The tasks of one status, or all, in listed order. -/
  | list (status : Option Status)
  /-- The task under a key, if there is one. -/
  | get (taskId : Text)
  /-- Replace fields of a task, its status included, without any check. -/
  | update (taskId : Text) (change : Change)
  /-- Give a pending task whose dependencies are completed to an owner. -/
  | claim (taskId owner : Text)

/-- What an operation answers. -/
def Operation.Answer : Operation → Type
  | .create .. => Task
  | .list _ => List Task
  | .get _ => Option Task
  | .update .. => Task
  | .claim .. => Task

/-- What an operation does to a list in memory. -/
inductive Verdict (α : Type) where
  /-- It is refused and changes nothing. -/
  | refused (failure : Failure)
  /-- It answers and changes nothing. -/
  | answered (answer : α)
  /-- It leaves a changed list to be saved, and answers if that succeeds. -/
  | changed (list : TaskList) (answer : α)
  /-- It fails after it changed the list, which is not saved. -/
  | brokenOff (list : TaskList) (failure : Failure)

/-- A verdict with the entries it leaves in the log. -/
structure Attempt (α : Type) where
  /-- Entries, in order. -/
  entries : List Entry
  /-- What happens. -/
  verdict : Verdict α

namespace TaskList

/-- Makes a task under the next identifier. -/
def create (list : TaskList) (listId subject description : Text)
    (now : Except QuantityFault Int) : Attempt Task :=
  match now, list.allocate? with
  | .error fault, _ => ⟨[], .refused (.quantity fault)⟩
  | .ok _, none => ⟨[], .refused .counterTooLong⟩
  | .ok now, some (id, list) =>
    let task := Task.fresh id subject description now
    ⟨[.debug Source.store
        ("Task created list=" ++ listId ++ " id=" ++ id ++ " subject=" ++ Text.quoted subject)],
      .changed (list.put id task) task⟩

/-- Puts a changed task in place of the one under its key, with the time of the change. -/
def replace (list : TaskList) (taskId : Text) (task : Task) (now : Except QuantityFault Int)
    (entry : Entry) : Attempt Task :=
  match now with
  | .error fault => ⟨[], .brokenOff (list.put taskId task) (.quantity fault)⟩
  | .ok now => ⟨[entry], .changed (list.put taskId (task.touch now)) (task.touch now)⟩

/-- Replaces fields of a task. -/
def update (list : TaskList) (listId taskId : Text) (change : Change)
    (now : Except QuantityFault Int) : Attempt Task :=
  match list.find? taskId with
  | none => ⟨[], .refused (.notFound taskId)⟩
  | some task =>
    let task := task.apply change
    list.replace taskId task now
      (.debug Source.store
        ("Task updated list=" ++ listId ++ " id=" ++ taskId ++ " status=" ++ task.status.word))

/-- Gives a task to an owner if it is pending and waits for nothing. -/
def claim (list : TaskList) (listId taskId owner : Text) (now : Except QuantityFault Int) :
    Attempt Task :=
  let refusal (why : Text) : Entry :=
    .warning Source.store
      ("Claim refused list=" ++ listId ++ " id=" ++ taskId ++ " owner=" ++ owner ++ " " ++ why)
  match list.find? taskId with
  | none => ⟨[], .refused (.notFound taskId)⟩
  | some task =>
    if task.status ≠ .pending then
      ⟨[refusal ("status=" ++ task.status.word)],
        .refused (.notClaimable taskId task.status.word)⟩
    else
      match list.incompleteDependencies task with
      | [] =>
        list.replace taskId { task with owner := some owner, status := .inProgress } now
          (.info Source.store
            ("Task claimed list=" ++ listId ++ " id=" ++ taskId ++ " owner=" ++ owner))
      | blocked =>
        ⟨[refusal ("blocked_by=" ++ Text.intercalate "," blocked)], .refused (.blocked taskId blocked)⟩

/-- Carries out an operation on a list in memory at the second that the clock shows, if it shows one. -/
def attempt (list : TaskList) (listId : Text) (now : Except QuantityFault Int) :
    (operation : Operation) → Attempt operation.Answer
  | .create subject description => list.create listId subject description now
  | .list status => ⟨[], .answered (list.listed status)⟩
  | .get taskId => ⟨[], .answered (list.find? taskId)⟩
  | .update taskId change => list.update listId taskId change now
  | .claim taskId owner => list.claim listId taskId owner now

end TaskList

end Taskboard
