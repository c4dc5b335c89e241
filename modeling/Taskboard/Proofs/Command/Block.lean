import Taskboard.Proofs.Command.Reply
import Taskboard.Proofs.Store.Updates
import Taskboard.Proofs.Text.Spelling

/-!
# Dependencies in a line

A line that gives a task dependencies comes down to an update of that task: afterwards it waits for what is read from
the line, and for nothing else. The identifiers are read as they are meant exactly if there is a blank between any two
of them, with any commas beside it.
-/

namespace Taskboard

namespace Store

variable {store : Store} {listId : Text} {list : TaskList} {host : Host}

/-- After an update of a task that is there, the list with the changed task is in memory. If the update is answered, it
is answered with the changed task, and the list is on file. -/
theorem perform_update_of_found {taskId : Text} {task : Task} {second : Int} (change : Change)
    (dated : dated host) (shown : host.clock.second = .ok second) (opened : store.openedList listId host = .ok list)
    (found : list.find? taskId = some task) :
    let outcome := store.perform listId (.update taskId change) host
    let after := list.put taskId ((task.apply change).touch second)
    outcome.store.lists.find? listId = some after ∧
      ∀ answer, outcome.result = .ok answer →
        answer = (task.apply change).touch second ∧ store.OnFile listId outcome.disk after := by
  intro outcome after
  have course : Course store listId (.update taskId change) host outcome :=
    store.course_perform listId (.update taskId change) host
  have left : (list.attempt listId host.clock.second (.update taskId change)).verdict.left? = some after := by
    have updated : (list.attempt listId host.clock.second (.update taskId change)).verdict.left? = _ :=
      list.update_left? taskId change
    rw [updated, found, shown]
    rfl
  refine ⟨(course.held opened).trans (congrArg (fun left => some (left.getD list)) left), fun answer answered => ?_⟩
  refine ⟨?_, course.onFile_of_ok dated opened left answered⟩
  obtain ⟨list', after', opened', changed⟩ := course.changed_of_ok rfl answered
  cases opened.symm.trans opened'
  rw [TaskList.attempt, TaskList.update, found, shown] at changed
  cases changed
  rfl

end Store

namespace Command

variable {Job Report : Type} {number : Nat} {workspace : Workspace}

/-- The dependencies in the words of a text are its words without the commas around them. -/
theorem dependencies_words (text : List CodePoint) :
    dependencies ((Text.words text).map Text.ofList) = (Text.bareWords text).map Text.ofList := by
  have same (word : List CodePoint) : (decide (Text.ofList word ≠ "")) = decide (word ≠ []) := by
    rw [decide_eq_decide, ne_eq, ne_eq, ← Text.toList_eq_nil_iff]
  have trims : (fun word : Text => Text.ofList (Text.trimBy (· = .char ',') word.toList)) ∘ Text.ofList =
      Text.ofList ∘ Text.trimBy (· = .char ',') := rfl
  rw [dependencies, Text.bareWords, List.map_map, trims, ← List.map_map, List.filter_map]
  exact congrArg (List.map Text.ofList) (List.filter_congr fun word _ => same word)

/-- With an identifier, the command asks the tool for an update. -/
theorem run_block (Job Report : Type) (number : Nat) (taskId : Text) (rest : List Text) :
    run number .block (taskId :: rest) = (replyWithTask number "update"
      [("task_id", .string taskId), ("blocked_by", .list ((dependencies rest).map Json.string))]
      fun task => "Updated " ++ task.line : Undertaking Job Report Text) := rfl

/-- The call of the tool stands for new dependencies of a task in the current list. -/
theorem request?_block (desk : Desk) (taskId : Text) (keys : List Text) :
    Tool.request? desk (("action", .string "update") :: ("list_id", .string desk.listId) ::
      [("task_id", .string taskId), ("blocked_by", .list (keys.map Json.string))]) =
        some (currentList desk, .update taskId ⟨none, none, none, none, some keys⟩) := by
  have texts : (keys.map Json.string).filterMap Json.string? = keys := by
    rw [List.filterMap_map]
    exact List.filterMap_some
  have asked : Tool.request? desk (("action", .string "update") :: ("list_id", .string desk.listId) ::
      [("task_id", .string taskId), ("blocked_by", .list (keys.map Json.string))]) =
        some (currentList desk, .update taskId ⟨none, none, none, none,
          some ((keys.map Json.string).filterMap Json.string?)⟩) := rfl
  rw [asked, texts]

/-- A line that calls the command for a task of the current list, with dependencies behind its identifier, gives the
task the dependencies that are read. The changed list is in memory, and unless the save fails it is on file and the
reply shows the task. What is read are the identifiers that are written, exactly if none of them is empty and there is a
blank between any two of them; if none is empty, those with only commas between them are read as one. -/
theorem block_reads (perform : Job → Workspace → Report × Workspace) (number : Nat) (workspace : Workspace)
    (present : number < workspace.desks.length) (dated : Store.dated workspace.host) (taskId : Text)
    (named : Text.IsWord taskId.toList) (spelling : Text.Spelling) (list : TaskList) (task : Task)
    (opened : (workspace.desk number).store.openedList (currentList (workspace.desk number)) workspace.host = .ok list)
    (found : list.find? taskId = some task) :
    let store := (workspace.desk number).store
    let listId := currentList (workspace.desk number)
    let line := "/block " ++ taskId ++ " " ++ Text.ofList spelling.text
    let replied := Script.run perform (reply number line).run workspace
    ∃ keys second,
      let blocked := { task with blockedBy := keys }.touch second
      workspace.host.clock.second = .ok second ∧
        (replied.2.desk number).store.lists.find? listId = some (list.put taskId blocked) ∧
        ((store.perform listId (.update taskId ⟨none, none, none, none, some keys⟩) workspace.host).result.isOk →
          store.OnFile listId replied.2.disk (list.put taskId blocked) ∧
            replied.1 = .ok (some ("Updated " ++ blocked.line))) ∧
        (keys = spelling.ids.map Text.ofList ↔
          (∀ item ∈ spelling.items, item.id ≠ []) ∧ ∀ item ∈ spelling.items.dropLast, item.gap.any Text.isBlank) ∧
        ((∀ item ∈ spelling.items, item.id ≠ []) → keys = (Text.tied spelling.items).map Text.ofList) := by
  intro store listId line replied
  obtain ⟨⟨second, shown⟩, -⟩ := id dated
  have spelled : line.toList =
      .char '/' :: (Command.block.name.toList ++ .char ' ' :: (taskId.toList ++ .char ' ' :: spelling.text)) := by
    simp [line, Command.name]
  have called := dispatch_name .block spelled
  rw [Text.words_append_blank (by decide), Text.words_word named, List.singleton_append, List.map_cons,
    Text.ofList_toList] at called
  have asked := request?_block (workspace.desk number) taskId
    (dependencies ((Text.words spelling.text).map Text.ofList))
  obtain ⟨memory, disk, told⟩ := run_reply_request perform called (run_block Job Report number taskId _) asked present
    (Store.noting_of_dated dated)
  rw [dependencies_words] at memory disk told
  let keys := (Text.bareWords spelling.text).map Text.ofList
  obtain ⟨held, answers⟩ :=
    Store.perform_update_of_found ⟨none, none, none, none, some keys⟩ dated shown opened found
  refine ⟨keys, second, shown, ?_, fun saved => ?_, ?_, fun filled => ?_⟩
  · rw [memory]
    exact held
  · obtain ⟨answer, answered⟩ := answered_of_isOk saved
    obtain ⟨new, file⟩ := answers answer answered
    rw [disk, told answer (.one answer) answered rfl, new]
    exact ⟨file, rfl⟩
  · rw [← Text.bareWords_eq_ids_iff]
    exact (List.map_injective_iff.mpr fun _ _ => Text.ofList.inj).eq_iff
  · exact congrArg (List.map Text.ofList) (Text.bareWords_text spelling filled)

/-- Three identifiers, the first two with a blank and a comma between them, the last two with a comma only. -/
def mixed : Text.Spelling where
  lead := [.char ',']
  items := [
    ⟨[.char '2'], [.char ' ', .char ','], List.forall_mem_singleton.mpr rfl,
      List.forall_mem_cons.mpr ⟨rfl, List.forall_mem_singleton.mpr rfl⟩⟩,
    ⟨[.char '3'], [.char ','], List.forall_mem_singleton.mpr rfl, List.forall_mem_singleton.mpr rfl⟩,
    ⟨[.char '4'], [], List.forall_mem_singleton.mpr rfl, List.forall_mem_nil _⟩]
  leads := List.forall_mem_singleton.mpr rfl
  apart := by decide

/-- A desk with a list of one task. -/
def board : Workspace :=
  { Workspace.start (.ofInt 9) .empty 0 true with
    desks := [⟨default, ⟨⟨.here, ["d", "tasks"]⟩, .ofList [("l", TaskList.empty.grown "s" "" 5)], 0⟩, "l", "l",
      "a"⟩] }

/-- The task waits for the first of them, and for a task whose identifier is made of the other two and the comma. -/
theorem block_reads_mixed :
    mixed.ids = [[.char '2'], [.char '3'], [.char '4']] ∧
      ∃ blocked : Task, blocked.blockedBy = ["2", "3,4"] ∧
        ((typed board "/block 1 ,2 ,3,4").2.desk 0).store.lists.find? "l" =
          some ((TaskList.empty.grown "s" "" 5).put "1" blocked) ∧
        (typed board "/block 1 ,2 ,3,4").1 = .ok (some ("Updated " ++ blocked.line)) := by
  have dated : Store.dated board.host := ⟨⟨9, rfl⟩, fun _ => ⟨_, rfl⟩⟩
  have held : (board.desk 0).store.lists.find? "l" = some (TaskList.empty.grown "s" "" 5) := by decide +kernel
  have found : (TaskList.empty.grown "s" "" 5).find? "1" = some (.fresh "1" "s" "" 5) := by decide +kernel
  have spelled : "/block " ++ "1" ++ " " ++ Text.ofList mixed.text = "/block 1 ,2 ,3,4" := by decide +kernel
  have filled : ∀ item ∈ mixed.items, item.id ≠ [] := by decide
  have current : currentList (board.desk 0) = "l" := by decide +kernel
  have named : Text.IsWord ("1" : Text).toList := by decide
  have saved : ((board.desk 0).store.perform (currentList (board.desk 0))
      (.update "1" ⟨none, none, none, none, some ["2", "3,4"]⟩) board.host).result.isOk := by decide +kernel
  obtain ⟨keys, second, shown, memory, done, -, read⟩ :=
    block_reads nobody 0 board (by decide) dated "1" named mixed _ _
      (Store.openedList_of_held (current.symm ▸ held)) found
  have tied : (Text.tied mixed.items).map Text.ofList = ["2", "3,4"] := by decide +kernel
  obtain rfl : keys = ["2", "3,4"] := (read filled).trans tied
  obtain ⟨-, replied⟩ := done saved
  rw [spelled] at memory replied
  rw [current] at memory
  rw [typed]
  exact ⟨rfl, _, rfl, memory, replied⟩

end Command

end Taskboard
