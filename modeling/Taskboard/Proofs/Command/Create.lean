import Taskboard.Proofs.Command.Reply
import Taskboard.Proofs.Text.Words

/-!
# Subjects and descriptions that come back

A line that makes a task cuts its arguments at the first bar and makes both halves normal, so that single spaces stand
between words and nothing else is blank. The subject is not empty and has no bar. So the line that is put together
from the two texts, with a bar between them, is cut where it was put together, and makes a task with the same texts.
-/

namespace Taskboard

namespace Store

variable {store : Store} {host : Host} {listId subject description : Text} {task : Task}

/-- Whether a store has a new task afterwards: a list that can be opened before is in memory with one task more, under
the next identifier. -/
def Makes (store : Store) (host : Host) (after : Store) (task : Task) : Prop :=
  ∃ listId list, store.openedList listId host = .ok list ∧ task.id = Decimal.natText list.nextId ∧
    after.lists.find? listId = some ({ list with nextId := list.nextId + 1 }.put task.id task)

/-- No list is one task ahead of itself. -/
theorem ne_put_of_counted {list : TaskList} (key : Text) :
    { list with nextId := list.nextId + 1 }.put key task ≠ list := by
  intro same
  have ahead : list.nextId + 1 = list.nextId := congrArg TaskList.nextId same
  omega

/-- A store that stays as it is has no new task. -/
theorem not_makes_self : ¬ store.Makes host store task := by
  rintro ⟨listId, list, opened, -, held⟩
  exact ne_put_of_counted task.id (Except.ok.inj (opened.symm.trans (openedList_of_held held))).symm

/-- The store makes a task when it is asked for one, exactly if the list can be opened, the clock shows a second and the
next identifier can be written; and then it makes the task that it is asked for. -/
theorem makes_create_iff :
    store.Makes host (store.perform listId (.create subject description) host).store task ↔
      ∃ list second, store.openedList listId host = .ok list ∧ host.clock.second = .ok second ∧
        Decimal.tooLong list.nextId = false ∧
        task = .fresh (Decimal.natText list.nextId) subject description second := by
  have course := store.course_perform listId (.create subject description) host
  constructor
  · rintro ⟨other, list, opened, id, held⟩
    by_cases same : other = listId
    · subst same
      rw [course.held opened] at held
      cases left : (list.attempt other host.clock.second (.create subject description)).verdict.left? with
      | none =>
        rw [left] at held
        exact absurd (Option.some.inj held).symm (ne_put_of_counted task.id)
      | some after =>
        rw [left] at held
        cases TaskList.becomes_of_left? left with
        | @created _ _ second shown short =>
          have same : list.grown subject description second = _ := Option.some.inj held
          have found := congrArg (·.find? task.id) same
          simp only [TaskList.grown, TaskList.find?_put, id, if_pos] at found
          exact ⟨list, second, opened, shown, short, (Option.some.inj found).symm⟩
    · rw [course.find?_other same] at held
      exact absurd ⟨other, list, opened, id, held⟩ not_makes_self
  · rintro ⟨list, second, opened, shown, short, rfl⟩
    have verdict : (list.attempt listId host.clock.second (.create subject description)).verdict = _ :=
      TaskList.create_verdict subject description
    refine ⟨listId, list, opened, rfl, ?_⟩
    rw [course.held opened, verdict, shown]
    simp only [short]
    rfl

/-- The task that is answered is the one that was asked for. -/
theorem eq_of_perform_create {list : TaskList} {second : Int} {answer : Task}
    (opened : store.openedList listId host = .ok list) (shown : host.clock.second = .ok second)
    (answered : (store.perform listId (.create subject description) host).result = .ok answer) :
    answer = .fresh (Decimal.natText list.nextId) subject description second := by
  have course := store.course_perform listId (.create subject description) host
  obtain ⟨list', after, opened', changed⟩ := course.changed_of_ok rfl answered
  cases opened.symm.trans opened'
  have verdict : (list.attempt listId host.clock.second (.create subject description)).verdict = _ :=
    TaskList.create_verdict subject description
  rw [verdict, shown] at changed
  dsimp only at changed
  split at changed
  · cases changed
  · cases changed
    rfl

end Store

namespace Command

variable {Job Report : Type} {perform : Job → Workspace → Report × Workspace} {number : Nat} {workspace : Workspace}
  {line name : Text} {arguments : List Text} {task : Task}

/-- Subject and description are the normal texts before and after the first bar. -/
theorem subjectAndDescription_words (text : List CodePoint) :
    subjectAndDescription ((Text.words text).map Text.ofList) =
      (Text.ofList (Text.normal (Text.cutAt '|' text).1), Text.ofList (Text.normal (Text.cutAt '|' text).2)) := by
  have joins : (Text.intercalate " " ((Text.words text).map Text.ofList)).toList = Text.normal text := by
    rw [Text.intercalate, Text.toList_ofList, List.map_map]
    have same : Text.toList ∘ Text.ofList = id := funext Text.toList_ofList
    rw [same, List.map_id]
    rfl
  obtain ⟨before, after⟩ := Text.trimBy_cutAt_normal (by decide : Text.isBlank '|' = false) text
  rw [subjectAndDescription, joins]
  dsimp only
  rw [before, after]

/-- A normal subject without a bar and a normal description, with a bar between them, are found again. -/
theorem subjectAndDescription_again {subject description : Text} (subjectNormal : Text.IsNormal subject.toList)
    (descriptionNormal : Text.IsNormal description.toList) (bare : .char '|' ∉ subject.toList) :
    subjectAndDescription ((Text.words (subject ++ " | " ++ description).toList).map Text.ofList) =
      (subject, description) := by
  have spelled : (subject ++ " | " ++ description).toList =
      subject.toList ++ [.char ' '] ++ .char '|' :: .char ' ' :: description.toList := by simp
  have notMem : .char '|' ∉ subject.toList ++ [.char ' '] := by simp [bare]
  have cut : Text.cutAt '|' (subject.toList ++ [.char ' '] ++ .char '|' :: .char ' ' :: description.toList) =
      (subject.toList ++ [.char ' '], .char ' ' :: description.toList) := by
    rw [Text.cutAt_of_notMem notMem]
    simp [Text.cutAt]
  have before : Text.normal (subject.toList ++ [.char ' ']) = subject.toList := by
    have split := Text.words_append_blank (by decide : Text.isBlank ' ' = true) subject.toList []
    have none : Text.words [] = [] := rfl
    rw [Text.normal, split, none, List.append_nil]
    exact subjectNormal.normal_eq
  have after : Text.normal (.char ' ' :: description.toList) = description.toList := by
    rw [Text.normal, Text.words_cons_blank (by decide)]
    exact descriptionNormal.normal_eq
  rw [subjectAndDescription_words, spelled, cut]
  dsimp only
  rw [before, after, Text.ofList_toList, Text.ofList_toList]

/-- With a subject, the command asks the tool for a new task. -/
theorem run_create (Job Report : Type) (number : Nat) {subject description : Text}
    (parts : subjectAndDescription arguments = (subject, description))
    (filled : subject ≠ "") :
    run number .create arguments = (replyWithTask number "create"
      [("subject", .string subject), ("description", .string description)] fun task => "Created " ++ task.line :
        Undertaking Job Report Text) := by
  simp only [run, parts, filled, if_false]

/-- Without one, it asks for nothing. -/
theorem run_create_usage (Job Report : Type) (number : Nat) {description : Text}
    (parts : subjectAndDescription arguments = (("" : Text), description)) :
    run number .create arguments = (pure "Usage: /create <subject> [| description]" :
      Undertaking Job Report Text) := by
  simp only [run, parts, if_true]

/-- The call of the tool stands for a new task in the current list. -/
theorem request?_create (desk : Desk) (subject description : Text) :
    Tool.request? desk (("action", .string "create") :: ("list_id", .string desk.listId) ::
      [("subject", .string subject), ("description", .string description)]) =
        some (currentList desk, .create subject description) := rfl

/-- A task that a line makes through the command has the subject and the description of the arguments. -/
theorem parts_of_makes (called : registry.dispatch line = .call name .create arguments)
    (present : number < workspace.desks.length)
    (made : (workspace.desk number).store.Makes workspace.host
      ((Script.run perform (reply number line).run workspace).2.desk number).store task) :
    task.subject ≠ "" ∧ subjectAndDescription arguments = (task.subject, task.description) := by
  cases parts : subjectAndDescription arguments with
  | mk subject description =>
    by_cases filled : subject = ""
    · subst filled
      have ran : Script.run perform (run number .create arguments).run workspace =
          (.ok "Usage: /create <subject> [| description]", workspace) := by
        rw [run_create_usage Job Report number parts]
        rfl
      rw [reply, Registry.run_handle_ok perform called ran] at made
      exact absurd made Store.not_makes_self
    · have body := run_create Job Report number parts filled
      cases noting : workspace.host.noting with
      | error failure =>
        rw [Workspace.desk_congr (run_reply_unnoted perform called body noting)] at made
        exact absurd made Store.not_makes_self
      | ok noted =>
        have asked := request?_create (workspace.desk number) subject description
        rw [(run_reply_request perform called body asked present noting).1] at made
        obtain ⟨list, second, -, -, -, rfl⟩ := Store.makes_create_iff.mp made
        exact ⟨filled, rfl⟩

/-- A line that calls the command with a subject makes a task, whenever the clock shows what is needed, the current list
can be opened and the next identifier can be written. Unless the save fails, the reply shows the task. -/
theorem makes_of_parts (perform : Job → Workspace → Report × Workspace)
    (called : registry.dispatch line = .call name .create arguments) {subject description : Text}
    (parts : subjectAndDescription arguments = (subject, description)) (filled : subject ≠ "")
    (present : number < workspace.desks.length) (dated : Store.dated workspace.host) {list : TaskList}
    (opened : (workspace.desk number).store.openedList (currentList (workspace.desk number)) workspace.host = .ok list)
    (short : Decimal.tooLong list.nextId = false) :
    ∃ task : Task, task.subject = subject ∧ task.description = description ∧
      (workspace.desk number).store.Makes workspace.host
        ((Script.run perform (reply number line).run workspace).2.desk number).store task ∧
      (((workspace.desk number).store.perform (currentList (workspace.desk number))
          (.create subject description) workspace.host).result.isOk →
        (Script.run perform (reply number line).run workspace).1 = .ok (some ("Created " ++ task.line))) := by
  obtain ⟨⟨second, shown⟩, -⟩ := id dated
  have body := run_create Job Report number parts filled
  have asked := request?_create (workspace.desk number) subject description
  obtain ⟨memory, -, told⟩ := run_reply_request perform called body asked present (Store.noting_of_dated dated)
  refine ⟨.fresh (Decimal.natText list.nextId) subject description second, rfl, rfl, ?_, fun saved => ?_⟩
  · rw [memory]
    exact Store.makes_create_iff.mpr ⟨list, second, opened, shown, short, rfl⟩
  · obtain ⟨answer, answered⟩ := answered_of_isOk saved
    rw [told answer (.one answer) answered rfl, Store.eq_of_perform_create opened shown answered]
    rfl

/-- A task that is made by a line which calls the command has as its subject and its description the normal texts before
and after the first bar of what follows the name; the subject is not empty and has no bar. And wherever a task can be
made, the line that is put together from the two, with a bar between them, makes a task with the same subject and the
same description. -/
theorem create_reenters (perform : Job → Workspace → Report × Workspace) (number : Nat) (workspace : Workspace)
    (present : number < workspace.desks.length) (line : Text)
    (called : ∃ name arguments, registry.dispatch line = .call name .create arguments) (task : Task)
    (made : (workspace.desk number).store.Makes workspace.host
      ((Script.run perform (reply number line).run workspace).2.desk number).store task) :
    let text := Text.afterWord (line.toList.drop 1)
    (task.subject ≠ "" ∧ .char '|' ∉ task.subject.toList) ∧
      (Text.IsNormal task.subject.toList ∧ Text.IsNormal task.description.toList) ∧
      (task.subject.toList = Text.normal (Text.cutAt '|' text).1 ∧
        task.description.toList = Text.normal (Text.cutAt '|' text).2) ∧
      ∀ (other : Workspace) (desk : Nat) (list : TaskList), desk < other.desks.length → Store.dated other.host →
        (other.desk desk).store.openedList (currentList (other.desk desk)) other.host = .ok list →
        Decimal.tooLong list.nextId = false →
        let again := Script.run perform
          (reply desk ("/create " ++ task.subject ++ " | " ++ task.description)).run other
        ∃ copy : Task, copy.subject = task.subject ∧ copy.description = task.description ∧
          (other.desk desk).store.Makes other.host (again.2.desk desk).store copy ∧
          (((other.desk desk).store.perform (currentList (other.desk desk))
              (.create task.subject task.description) other.host).result.isOk →
            again.1 = .ok (some ("Created " ++ copy.line))) := by
  intro text
  obtain ⟨name, arguments, called⟩ := called
  obtain ⟨filled, parts⟩ := parts_of_makes called present made
  obtain ⟨rest, first, others, slash, split, -, -, rfl⟩ := Registry.dispatch_eq_call_iff.mp called
  have follows : text = Text.afterWord rest := congrArg (fun line => Text.afterWord (line.drop 1)) slash
  rw [← Text.words_afterWord split, ← follows, subjectAndDescription_words] at parts
  obtain ⟨subject, description⟩ := Prod.mk.inj parts
  have subjectIs : task.subject.toList = Text.normal (Text.cutAt '|' text).1 := by
    rw [← subject, Text.toList_ofList]
  have descriptionIs : task.description.toList = Text.normal (Text.cutAt '|' text).2 := by
    rw [← description, Text.toList_ofList]
  have subjectNormal : Text.IsNormal task.subject.toList := by
    rw [subjectIs]
    exact Text.isNormal_normal _
  have descriptionNormal : Text.IsNormal task.description.toList := by
    rw [descriptionIs]
    exact Text.isNormal_normal _
  have bare : .char '|' ∉ task.subject.toList := by
    rw [subjectIs, ← (Text.trimBy_cutAt_normal (by decide) text).1]
    exact fun mem => Text.notMem_cutAt '|' _ ((Text.trimBy_sublist _ _).mem mem)
  refine ⟨⟨filled, bare⟩, ⟨subjectNormal, descriptionNormal⟩, ⟨subjectIs, descriptionIs⟩, ?_⟩
  intro other desk list present dated opened short again
  have spelled : ("/create " ++ task.subject ++ " | " ++ task.description).toList =
      .char '/' :: (Command.create.name.toList ++ .char ' ' :: (task.subject ++ " | " ++ task.description).toList) := by
    simp [Command.name]
  exact makes_of_parts perform (dispatch_name .create spelled)
    (subjectAndDescription_again subjectNormal descriptionNormal bare) filled present dated opened short

/-- A desk over an empty disk. -/
def quiet : Workspace :=
  { Workspace.start (.ofInt 5) .empty 0 true with
    desks := [⟨default, ⟨⟨.here, ["d", "tasks"]⟩, .empty, 0⟩, "l", "l", "a"⟩] }

/-- A line with blanks of several kinds, with a second bar right behind the first and a third one further on. -/
def untidy : Text := "/New\tfix\u2003 the||leak\u00a0\u00a0in  | cellar "

/-- It makes a task whose description starts with a bar, and the tidy line makes the same task. -/
theorem create_reenters_untidy :
    (typed quiet untidy).1 = .ok (some "Created #1 [pending] fix the (owner: -)") ∧
      ∃ copy : Task, copy.subject = "fix the" ∧ copy.description = "|leak in | cellar" ∧
        (quiet.desk 0).store.Makes quiet.host
          ((typed quiet "/create fix the | |leak in | cellar").2.desk 0).store copy ∧
        (typed quiet "/create fix the | |leak in | cellar").1 = .ok (some ("Created " ++ copy.line)) := by
  have dated : Store.dated quiet.host := ⟨⟨5, rfl⟩, fun _ => ⟨_, rfl⟩⟩
  have opened : (quiet.desk 0).store.openedList (currentList (quiet.desk 0)) quiet.host = .ok .empty := by
    decide +kernel
  have called : ∃ name arguments, registry.dispatch untidy = .call name .create arguments :=
    ⟨_, _, Registry.dispatch_eq_call_iff.mpr ⟨untidy.toList.drop 1, ("New" : Text).toList,
      (Text.words (untidy.toList.drop 1)).drop 1, by decide +kernel, by decide +kernel, rfl, by decide +kernel, rfl⟩⟩
  have made : (quiet.desk 0).store.Makes quiet.host ((typed quiet untidy).2.desk 0).store
      (.fresh "1" "fix the" "|leak in | cellar" 5) :=
    ⟨"l", .empty, opened, by decide +kernel, by decide +kernel⟩
  have saved : ((quiet.desk 0).store.perform (currentList (quiet.desk 0))
      (.create "fix the" "|leak in | cellar") quiet.host).result.isOk := by decide +kernel
  have replied : (typed quiet untidy).1 = .ok (some "Created #1 [pending] fix the (owner: -)") := by decide +kernel
  obtain ⟨-, -, -, reenters⟩ := create_reenters nobody 0 quiet (by decide) untidy called _ made
  obtain ⟨copy, subject, description, copied, told⟩ := reenters quiet 0 .empty (by decide) dated opened
    (by decide +kernel)
  exact ⟨replied, copy, subject, description, copied, told saved⟩

end Command

end Taskboard
