import Taskboard.Proofs.Store.Plain
import Taskboard.Proofs.Store.Unexpected

/-!
# Lists that can be put in their files

A plain list can be put in its file if the path of that file can be spelled in bytes. So an operation with plain
texts on a plain list fails in a way that nobody expects only where its file is nested too deep, or where a new task
would take an identifier with too many digits.
-/

namespace Taskboard.Store

open Disk

variable {store : Store} {listId : Text} {list : TaskList} {operation : Operation} {host : Host} {path : Path}
  {failure : Failure} {what : Unstorable}

/-- All that is carried out of the steps of a save works on paths that can be spelled, if that of the file can. -/
theorem spelled_steps {steps : List Step} {saved : Except TaskList.SaveFault (List UInt8)} (spelled : path.Spelled)
    (planned : steps? path saved = some steps) :
    ∀ step ∈ carriedOut host steps, ∀ path ∈ step.paths, path.Spelled := by
  have whole : ∀ step ∈ steps, ∀ path ∈ step.paths, path.Spelled := by
    cases saved with
    | ok bytes =>
      cases planned
      exact spelled_saveSteps spelled bytes
    | error fault =>
      cases fault with
      | longNumber => cases planned
      | surrogate fault =>
        cases planned
        exact fun step mem => spelled_saveSteps spelled [] step (List.mem_append_left _ mem)
  rw [carriedOut]
  cases host.breakdown with
  | none => exact whole
  | some breakdown => exact spelled_carriedOut whole

/-- A plain list can be put in its file if the path of that can be spelled. -/
theorem not_unputtable (spelled : ∀ path, store.filePath listId = .ok path → path.Spelled) (plain : list.IsPlain) :
    ¬ store.Unputtable listId list host what := by
  intro unputtable
  cases unputtable with
  | contents named written goesOn done => exact (TaskList.save_surrogate_iff.mp ⟨_, written⟩).2 plain
  | place named planned stopped uncoded =>
    exact code?_of_performAll (spelled_steps (spelled _ named) planned) stopped uncoded

/-- An operation with plain texts makes of a plain list one that can be put in its file. -/
theorem not_unputtable_of_changed {after : TaskList} {answer : operation.Answer}
    (spelled : ∀ path, store.filePath listId = .ok path → path.Spelled) (plain : list.IsPlain)
    (given : operation.IsPlain)
    (changed : (list.attempt listId host.clock.second operation).verdict = .changed after answer) :
    ¬ store.Unputtable listId after host what := by
  have left : (list.attempt listId host.clock.second operation).verdict.left? = some after := by
    rw [changed]
    rfl
  exact not_unputtable spelled (plain.becomes given (TaskList.becomes_of_left? left))

/-- Whether a list is plain if it is opened, and the path of its file can be spelled. -/
structure OpensPlain (store : Store) (listId : Text) (host : Host) : Prop where
  /-- The path can be spelled. -/
  spelled (path : Path) (named : store.filePath listId = .ok path) : path.Spelled
  /-- The list is plain. -/
  plain (list : TaskList) (opened : store.openedList listId host = .ok list) : list.IsPlain

/-- With plain texts, only two of the four ways to fail are left where that is so. -/
theorem Escapes.of_plain (escapes : store.Escapes listId operation host failure)
    (opensPlain : store.OpensPlain listId host) (given : operation.IsPlain) :
    (∃ container, failure = .nestedTooDeep container) ∨ failure = .counterTooLong := by
  cases escapes with
  | unaddressable absent named refused uncoded =>
    exact absurd uncoded (spelled_iff.mp (opensPlain.spelled _ named) _ refused)
  | tooDeep absent named read refused => exact .inl ⟨_, rfl⟩
  | counterTooLong create opened long => exact .inr rfl
  | unstorable opened changed unputtable =>
    have plain := opensPlain.plain _ opened
    exact absurd unputtable (not_unputtable_of_changed opensPlain.spelled plain given changed)

/-- An operation with plain texts on a list that is opened keeps it plain. -/
theorem OpensPlain.perform (opensPlain : store.OpensPlain listId host) (given : operation.IsPlain)
    (opened : store.openedList listId host = .ok list) (later : Host) :
    (store.perform listId operation host).store.OpensPlain listId later := by
  have course := course_perform store listId operation host
  have held := course.held opened
  have plain := opensPlain.plain list opened
  refine ⟨fun path named => ?_, fun after reopened => ?_⟩
  · rw [filePath, course.folder] at named
    exact opensPlain.spelled path named
  · rw [openedList_of_held held] at reopened
    cases reopened
    cases left : (list.attempt listId host.clock.second operation).verdict.left? with
    | none => exact plain
    | some changed => exact plain.becomes given (TaskList.becomes_of_left? left)

end Taskboard.Store
