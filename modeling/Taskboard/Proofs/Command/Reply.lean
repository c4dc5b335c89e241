import Taskboard.Command.Builtin
import Taskboard.Proofs.Text.Words
import Taskboard.Proofs.Tool.Failures

/-!
# Replies to lines

The reply to a line is made of what the command that it calls ends with. An expected failure is noted, and its
message is the reply; any other failure passes through.

A line that calls a command for one task comes down to one operation of the store behind the desk: memory and disk
are afterwards what the operation leaves, and what it answers is shown. A command that fails before the store is asked
leaves nothing behind but entries in the log.
-/

namespace Taskboard

namespace Registry

variable {Handler Job Report : Type} {registry : Registry Handler}
  {body : Handler → List Text → Undertaking Job Report Text} {line name text : Text} {handler : Handler}
  {arguments : List Text} {workspace after : Workspace} {failure : Failure}

/-- A line calls a command if it starts with a slash and its first word, in small letters, is a name of the command. -/
theorem dispatch_eq_call_iff : registry.dispatch line = .call name handler arguments ↔
    ∃ rest first others, line.toList = .char '/' :: rest ∧ Text.words rest = first :: others ∧
      name = Text.lower (Text.ofList first) ∧ registry.handlers.find? name = some handler ∧
      arguments = others.map Text.ofList := by
  constructor
  · intro called
    rw [dispatch.eq_def] at called
    split at called
    · next rest slash =>
      cases split : Text.words rest with
      | nil =>
        rw [split] at called
        cases called
      | cons first others =>
        rw [split, List.map_cons] at called
        dsimp only at called
        split at called
        · next found =>
          cases called
          exact ⟨rest, first, others, slash, split, rfl, found, rfl⟩
        · cases called
    · cases called
  · rintro ⟨rest, first, others, slash, split, rfl, found, rfl⟩
    simp only [dispatch, slash, split, List.map_cons, found]

/-- How the reply comes out of what a command ends with. A text is the reply. After an expected failure, which is noted,
the reply is its message with a word before it, unless it cannot be noted. Any other failure passes through. -/
def ending (name : Text) : Except Failure Text → Script Job Report (Except Failure (Option Text))
  | .ok text => .done (.ok (some text))
  | .error failure =>
    if failure.isExpected then
      .instant (·.record [.info Source.commands ("Command /" ++ name ++ " failed: " ++ failure.message)])
        fun workspace => .done (workspace.host.noting.map fun _ => some ("Error: " ++ failure.message))
    else .done (.error failure)

/-- The reply to a line that calls a command is made of what the command ends with. -/
theorem run_handle_of_call (called : registry.dispatch line = .call name handler arguments) :
    (registry.handle body line).run = (body handler arguments).run.bind (ending name) := by
  rw [handle, called]
  refine (Script.bind_assoc _ _ _).trans (congrArg _ (funext fun result => ?_))
  cases result with
  | ok text => rfl
  | error failure =>
    rw [ending]
    change (if failure.isExpected then _ else _) = _
    cases failure.isExpected with
    | false => rfl
    | true =>
      -- noting is one instant, and whether it was possible is seen before it
      refine congrArg (Script.instant _) (funext fun workspace => ?_)
      change (Script.done workspace.host.noting).bind _ = _
      cases workspace.host.noting <;> rfl

/-- The reply of a command is that to the line that calls it. -/
theorem run_handle_ok (perform : Job → Workspace → Report × Workspace)
    (called : registry.dispatch line = .call name handler arguments)
    (ran : Script.run perform (body handler arguments).run workspace = (.ok text, after)) :
    Script.run perform (registry.handle body line).run workspace = (.ok (some text), after) := by
  rw [run_handle_of_call called, Script.run_bind, ran]
  rfl

/-- After a command that fails there may be one more entry in the log. -/
theorem run_handle_error (perform : Job → Workspace → Report × Workspace)
    (called : registry.dispatch line = .call name handler arguments)
    (ran : Script.run perform (body handler arguments).run workspace = (.error failure, after)) :
    ∃ result entries, Script.run perform (registry.handle body line).run workspace =
      (result, after.record entries) := by
  rw [run_handle_of_call called, Script.run_bind, ran, ending]
  split
  · exact ⟨_, [_], rfl⟩
  · exact ⟨_, [], by rw [Workspace.record_nil]; rfl⟩

end Registry

namespace Command

variable {Job Report : Type} {perform : Job → Workspace → Report × Workspace} {number : Nat}
  {workspace : Workspace} {line name action listId : Text} {command : Command} {arguments : List Text}
  {parameters : Tool.Parameters} {operation : Operation} {shown : Task → Text} {failure : Failure}

/-- What does not fail has an answer. -/
theorem answered_of_isOk {α : Type} {result : Except Failure α} (ok : result.isOk) : ∃ answer, result = .ok answer := by
  cases result with
  | error failure => cases ok
  | ok answer => exact ⟨answer, rfl⟩

/-- The list that the commands at a desk are about. -/
def currentList (desk : Desk) : Text := Settings.orElse desk.listId desk.defaultListId

/-- Every command is known by its name. -/
theorem find?_name (command : Command) : registry.handlers.find? (Text.lower command.name) = some command := by
  have known : ∀ command ∈ all, registry.handlers.find? (Text.lower command.name) = some command := by
    decide +kernel
  have listed : command ∈ all := by cases command <;> decide
  exact known command listed

theorem isWord_name (command : Command) : Text.IsWord command.name.toList := by
  cases command <;> decide

/-- A line of a slash, the name of a command, a space and a text calls the command with the words of the text. -/
theorem dispatch_name {text : List CodePoint} (command : Command)
    (spelled : line.toList = .char '/' :: (command.name.toList ++ .char ' ' :: text)) :
    registry.dispatch line = .call (Text.lower command.name) command ((Text.words text).map Text.ofList) := by
  have split : Text.words (command.name.toList ++ .char ' ' :: text) = command.name.toList :: Text.words text := by
    rw [Text.words_append_blank (by decide), Text.words_word (isWord_name command)]
    rfl
  refine Registry.dispatch_eq_call_iff.mpr ⟨_, _, _, spelled, split, ?_, find?_name command, rfl⟩
  rw [Text.ofList_toList]

/-- A line that calls a command for one task, at a time when it cannot be noted, changes no desk. -/
theorem run_reply_unnoted (perform : Job → Workspace → Report × Workspace)
    (called : registry.dispatch line = .call name command arguments)
    (body : run number command arguments = (replyWithTask number action parameters shown :
      Undertaking Job Report Text))
    (unnoted : workspace.host.noting = .error failure) :
    (Script.run perform (reply number line).run workspace).2.desks = workspace.desks := by
  have looks : Script.run perform (Script.desk number).run workspace = (.ok (workspace.desk number), workspace) := rfl
  have fails : ∃ entries, Script.run perform (Tool.execute number (("action", .string action) ::
      ("list_id", .string (workspace.desk number).listId) :: parameters)).run workspace =
        (.error failure, workspace.record entries) :=
    Tool.run_execute_unnoted perform unnoted rfl
  obtain ⟨entries, ran⟩ := fails
  have failed : Script.run perform (run number command arguments).run workspace =
      (.error failure, workspace.record entries) := by
    rw [body, replyWithTask, Script.run_undertaking, looks]
    dsimp only
    rw [Script.run_undertaking, ran]
  obtain ⟨result, more, replied⟩ := Registry.run_handle_error perform called failed
  rw [reply, replied, Workspace.desks_record, Workspace.desks_record]

/-- A line that calls a command for one task, when it can be noted, leaves memory and disk as the operation leaves them
that the call stands for, and shows the task that is answered. -/
theorem run_reply_request (perform : Job → Workspace → Report × Workspace)
    (called : registry.dispatch line = .call name command arguments)
    (body : run number command arguments = (replyWithTask number action parameters shown :
      Undertaking Job Report Text))
    (fit : Tool.request? (workspace.desk number) (("action", .string action) ::
      ("list_id", .string (workspace.desk number).listId) :: parameters) = some (listId, operation))
    (present : number < workspace.desks.length) (noted : workspace.host.noting = .ok ()) :
    let replied := Script.run perform (reply number line).run workspace
    let outcome := (workspace.desk number).store.perform listId operation workspace.host
    (replied.2.desk number).store = outcome.store ∧ replied.2.disk = outcome.disk ∧
      ∀ found answer, outcome.result = .ok found → Tool.answer operation found = .ok answer →
        replied.1 = .ok (some (shown (taskOf answer))) := by
  intro replied outcome
  have looks : Script.run perform (Script.desk number).run workspace = (.ok (workspace.desk number), workspace) := rfl
  obtain ⟨entries, ran⟩ := Tool.run_execute_noted perform noted fit
  have stays : number < (workspace.record entries).desks.length := by rwa [Workspace.desks_record]
  have carries := Workspace.carries_perform stays listId operation
  rw [Workspace.desk_congr (Workspace.desks_record _ _), Workspace.host_record] at carries
  generalize (workspace.record entries).perform number listId operation = settled at ran carries
  obtain ⟨found, after⟩ := settled
  have runs : Script.run perform (run number command arguments).run workspace =
      ((found.bind (Tool.answer operation)).map fun answer => shown (taskOf answer), after) := by
    rw [body, replyWithTask, Script.run_undertaking, looks]
    dsimp only
    rw [Script.run_undertaking, ran]
    cases found.bind (Tool.answer operation) <;> rfl
  have result : found = outcome.result := carries.result
  cases answered : found.bind (Tool.answer operation) with
  | error why =>
    rw [answered] at runs
    obtain ⟨told, more, replies⟩ := Registry.run_handle_error perform called runs
    have reached : replied = (told, after.record more) := replies
    rw [reached]
    refine ⟨?_, ?_, fun found' answer ok answers => ?_⟩
    · rw [Workspace.desk_congr (Workspace.desks_record _ _)]
      exact carries.store
    · rw [Workspace.disk_record]
      exact carries.disk
    · rw [result, ok] at answered
      cases answers.symm.trans answered
  | ok answer =>
    rw [answered] at runs
    have reached : replied = (.ok (some (shown (taskOf answer))), after) :=
      Registry.run_handle_ok perform called runs
    rw [reached]
    refine ⟨carries.store, carries.disk, fun found' answer' ok answers => ?_⟩
    rw [result, ok] at answered
    cases answers.symm.trans answered
    rfl

/-- Nobody is about who could do a job. -/
def nobody (job : Empty) (_ : Workspace) : Unit × Workspace := nomatch job

/-- What a line comes to that is typed at the first desk, with nobody else about. -/
def typed (workspace : Workspace) (line : Text) : Except Failure (Option Text) × Workspace :=
  Script.run nobody (reply 0 line).run workspace

end Command

end Taskboard
