import Taskboard.Proofs.Desk
import Taskboard.Proofs.Store.Unexpected
import Taskboard.Tool

/-!
# Failures of the tool

A call of the tool fails in a way that nobody expects exactly if the operation that it stands for does. That a
call stands for no operation, or asks for a task that is not there, is expected.
-/

namespace Taskboard

namespace Script

variable {Job Report α : Type}

/-- What needs no workspace is done without one. -/
theorem run_lift (perform : Job → Workspace → Report × Workspace) (result : Except Failure α)
    (workspace : Workspace) :
    Script.run perform (liftM result : Undertaking Job Report α).run workspace = (result, workspace) := by
  cases result <;> rfl

/-- An entry is noted where that is possible. -/
theorem run_noted (perform : Job → Workspace → Report × Workspace) (entry : Entry) {workspace : Workspace}
    (noted : workspace.host.noting = .ok ()) :
    Script.run perform (note entry : Undertaking Job Report Unit).run workspace =
      (.ok (), workspace.record [entry]) := by
  show (workspace.host.notingAll [entry], workspace.record [entry]) = _
  rw [Host.notingAll, noted]
  rfl

/-- An entry is noted where the clock can date it. -/
theorem run_note (perform : Job → Workspace → Report × Workspace) (entry : Entry) {workspace : Workspace}
    (dated : Store.dated workspace.host) :
    Script.run perform (note entry : Undertaking Job Report Unit).run workspace =
      (.ok (), workspace.record [entry]) :=
  run_noted perform entry (Store.noting_of_dated dated)

end Script

namespace Tool

variable {parameters : Parameters} {action key : Text} {failure : Failure}

/-- That a parameter is missing makes a call invalid. -/
theorem invalid_of_needed (h : needed parameters action key = .error failure) :
    ∃ what, failure = .invalid what := by
  rw [needed] at h
  split at h
  · cases h
  · cases h
    exact ⟨_, rfl⟩

/-- So does a word that is no status. -/
theorem invalid_of_status? (h : status? parameters = .error failure) : ∃ what, failure = .invalid what := by
  rw [status?] at h
  split at h
  · next word given =>
    rw [Status.parse] at h
    split at h
    · cases h
    · cases h
      exact ⟨_, rfl⟩
  · cases h

/-- What is done in two parts fails in one of them. -/
theorem invalid_of_bind {α β : Type} {first : Except Failure α} {next : α → Except Failure β}
    (h : first >>= next = .error failure)
    (early : ∀ failure, first = .error failure → ∃ what, failure = .invalid what)
    (late : ∀ result failure, next result = .error failure → ∃ what, failure = .invalid what) :
    ∃ what, failure = .invalid what := by
  cases first with
  | error why =>
    cases h
    exact early failure rfl
  | ok result => exact late result failure h

/-- A call that stands for no operation is invalid. -/
theorem invalid_of_operation (h : operation action parameters = .error failure) :
    ∃ what, failure = .invalid what := by
  have needs {action key : Text} {failure : Failure}
      (h : needed parameters action key = .error failure) := invalid_of_needed h
  unfold operation at h
  split at h
  · exact invalid_of_bind h (fun _ => needs) fun _ _ h => nomatch h
  split at h
  · exact invalid_of_bind h (fun _ => invalid_of_status?) fun _ _ h => nomatch h
  split at h
  · exact invalid_of_bind h (fun _ => needs) fun _ _ h => nomatch h
  split at h
  · refine invalid_of_bind h (fun _ => needs) fun _ _ h => ?_
    exact invalid_of_bind h (fun _ => invalid_of_status?) fun _ _ h => nomatch h
  split at h
  · refine invalid_of_bind h (fun _ => needs) fun _ _ h => ?_
    exact invalid_of_bind h (fun _ => needs) fun _ _ h => nomatch h
  · cases h
    exact ⟨_, rfl⟩

/-- The list and the operation that a call at a desk stands for, if it is a valid call. -/
def request? (desk : Desk) (parameters : Parameters) : Option (Text × Operation) :=
  match text? parameters "action" with
  | none => none
  | some action =>
    match operation action parameters with
    | .error _ => none
    | .ok operation =>
      some (Settings.orElse ((text? parameters "list_id").getD "") desk.defaultListId, operation)

/-- The tool makes a failure of an answer only if a task that was asked for is not there. -/
theorem notFound_of_answer {operation : Operation} {found : operation.Answer}
    (h : answer operation found = .error failure) :
    ∃ taskId, operation = .get taskId ∧ failure = .notFound taskId := by
  cases operation with
  | get taskId =>
    cases found with
    | some task => cases h
    | none =>
      cases h
      exact ⟨taskId, rfl, rfl⟩
  | _ => cases h

variable {Job Report : Type} {perform : Job → Workspace → Report × Workspace} {number : Nat}
  {workspace : Workspace}

/-- What is asked of the store once an entry was noted is what was asked before. -/
theorem perform_record (present : number < workspace.desks.length) (entries : List Entry) (listId : Text)
    (operation : Operation) :
    ((workspace.record entries).perform number listId operation).1 =
      ((workspace.desk number).store.perform listId operation workspace.host).result := by
  have stays : number < (workspace.record entries).desks.length := by rwa [Workspace.desks_record]
  have carries := Workspace.carries_perform stays listId operation
  rw [Workspace.desk_congr (Workspace.desks_record _ _), Workspace.host_record] at carries
  exact carries.result

/-- A call that stands for no operation is invalid, and nothing is done but to note it. -/
theorem run_execute_invalid (perform : Job → Workspace → Report × Workspace)
    (dated : Store.dated workspace.host)
    (unfit : request? (workspace.desk number) parameters = none) :
    ∃ what entries, Script.run perform (execute number parameters).run workspace =
      (.error (.invalid what), workspace.record entries) := by
  rw [request?] at unfit
  rw [execute]
  cases named : text? parameters "action" with
  | none => exact ⟨_, [], by rw [Workspace.record_nil]; rfl⟩
  | some action =>
    simp only [named] at unfit
    cases parsed : operation action parameters with
    | ok operation =>
      rw [parsed] at unfit
      cases unfit
    | error why =>
      obtain ⟨what, rfl⟩ := invalid_of_operation parsed
      have looks : Script.run perform (Script.desk number).run workspace =
          (.ok (workspace.desk number), workspace) := rfl
      dsimp only
      rw [Script.run_undertaking, looks]
      dsimp only
      rw [Script.run_undertaking, Script.run_note perform _ dated]
      dsimp only
      rw [Script.run_undertaking, Script.run_lift, parsed]
      exact ⟨what, _, rfl⟩

/-- Any other call asks for its operation once the call is noted. -/
theorem run_execute_noted (perform : Job → Workspace → Report × Workspace)
    (noted : workspace.host.noting = .ok ()) {listId : Text} {operation : Operation}
    (fit : request? (workspace.desk number) parameters = some (listId, operation)) :
    ∃ entries, Script.run perform (execute number parameters).run workspace =
      (((workspace.record entries).perform number listId operation).1.bind (answer operation),
        ((workspace.record entries).perform number listId operation).2) := by
  rw [request?] at fit
  rw [execute]
  cases named : text? parameters "action" with
  | none =>
    rw [named] at fit
    cases fit
  | some action =>
    simp only [named] at fit
    cases parsed : Tool.operation action parameters with
    | error why =>
      rw [parsed] at fit
      cases fit
    | ok operation =>
      rw [parsed] at fit
      cases fit
      have looks : Script.run perform (Script.desk number).run workspace =
          (.ok (workspace.desk number), workspace) := rfl
      dsimp only
      rw [Script.run_undertaking, looks]
      dsimp only
      rw [Script.run_undertaking, Script.run_noted perform _ noted]
      dsimp only
      generalize Entry.debug _ _ = entry
      refine ⟨[entry], ?_⟩
      rw [Script.run_undertaking, Script.run_lift, parsed]
      dsimp only
      rw [Script.run_undertaking]
      generalize Settings.orElse _ _ = listId
      have requests : Script.run perform (Script.request number listId operation).run
          (workspace.record [entry]) = (workspace.record [entry]).perform number listId operation := rfl
      rw [requests]
      cases (workspace.record [entry]).perform number listId operation with
      | mk result after =>
        cases result with
        | error why => rfl
        | ok found => exact Script.run_lift perform _ _

/-- So does a call at a time when the clock shows what is needed. -/
theorem run_execute_request (perform : Job → Workspace → Report × Workspace)
    (dated : Store.dated workspace.host) {listId : Text} {operation : Operation}
    (fit : request? (workspace.desk number) parameters = some (listId, operation)) :
    ∃ entries, Script.run perform (execute number parameters).run workspace =
      (((workspace.record entries).perform number listId operation).1.bind (answer operation),
        ((workspace.record entries).perform number listId operation).2) :=
  run_execute_noted perform (Store.noting_of_dated dated) fit

/-- A call that cannot be noted fails over that, and nothing is done. -/
theorem run_execute_unnoted (perform : Job → Workspace → Report × Workspace)
    (unnoted : workspace.host.noting = .error failure) (named : text? parameters "action" = some action) :
    ∃ entries, Script.run perform (execute number parameters).run workspace =
      (.error failure, workspace.record entries) := by
  have looks : Script.run perform (Script.desk number).run workspace =
      (.ok (workspace.desk number), workspace) := rfl
  rw [execute, named]
  dsimp only
  rw [Script.run_undertaking, looks]
  dsimp only
  rw [Script.run_undertaking]
  generalize Entry.debug _ _ = entry
  have notes : Script.run perform (Script.note entry).run workspace =
      (.error failure, workspace.record [entry]) := by
    show (workspace.host.notingAll [entry], workspace.record [entry]) = _
    rw [Host.notingAll, unnoted]
    rfl
  rw [notes]
  exact ⟨[entry], rfl⟩

/-- A call fails in a way that nobody expects exactly if it stands for an operation that does. -/
theorem execute_unexpected_iff (present : number < workspace.desks.length)
    (dated : Store.dated workspace.host) :
    (Script.run perform (execute number parameters).run workspace).1 = .error failure ∧
        failure.isExpected = false ↔
      ∃ listId operation, request? (workspace.desk number) parameters = some (listId, operation) ∧
        ((workspace.desk number).store.perform listId operation workspace.host).result = .error failure ∧
        failure.isExpected = false := by
  cases fit : request? (workspace.desk number) parameters with
  | none =>
    obtain ⟨what, entries, ran⟩ := run_execute_invalid perform dated fit
    rw [ran]
    constructor
    · rintro ⟨failed, unexpected⟩
      cases failed
      cases unexpected
    · rintro ⟨_, _, absent, -⟩
      cases absent
  | some request =>
    obtain ⟨listId, operation⟩ := request
    obtain ⟨entries, ran⟩ := run_execute_request perform dated fit
    rw [ran, perform_record present entries listId operation]
    cases asked : ((workspace.desk number).store.perform listId operation workspace.host).result with
    | error why =>
      constructor
      · rintro ⟨failed, unexpected⟩
        cases failed
        exact ⟨listId, operation, rfl, asked, unexpected⟩
      · rintro ⟨_, _, same, failed, unexpected⟩
        cases same
        cases asked.symm.trans failed
        exact ⟨rfl, unexpected⟩
    | ok found =>
      constructor
      · rintro ⟨failed, unexpected⟩
        obtain ⟨taskId, -, rfl⟩ := notFound_of_answer failed
        cases unexpected
      · rintro ⟨_, _, same, failed, unexpected⟩
        cases same
        cases asked.symm.trans failed

end Tool

end Taskboard
