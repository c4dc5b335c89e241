import Mathlib.Control.Monad.Basic
import Taskboard.Proofs.Store.Filed
import Taskboard.Proofs.Store.Restart
import Taskboard.Proofs.Tool.Failures

/-!
# What calls that fail leave behind

A call of the tool that fails for a reason that does not lie in a file changes nothing: it may only have read
the list that it names into memory. A call that fails over a file has not moved anything into place, since no
save breaks off after that, and it has changed no other list in memory. Where a store keeps lists under
identifiers that name files, which every store does that is used from its beginning, there is nothing else that
a failed save could be put down to.
-/

namespace Taskboard

open Disk

/-- Whether a failure says that a list could not be read from its file or saved to it. -/
def Failure.isUnkept : Failure → Bool
  | .unkept _ | .unstorable _ => true
  | _ => false

/-- A failed save is one of these. -/
theorem Failure.isUnkept_of_isFailedSave {failure : Failure} (h : failure.isFailedSave = true) :
    failure.isUnkept = true := by
  cases failure with
  | unkept how => rfl
  | unstorable what => rfl
  | _ => cases h

/-- Whether saves that break off do so before the new file is in place. A save does nothing after that, so there is
nothing left over which it could fail. -/
def Host.breaksEarly (host : Host) : Prop :=
  ∀ breakdown path bytes, host.breakdown = some breakdown →
    breakdown.comesAfter (Store.saveSteps path bytes) = false

namespace Store

variable {store : Store} {listId other : Text} {list : TaskList} {operation : Operation} {host : Host}
  {path : Path} {failure : Failure}

/-- Whether a store is as it was before, but that a list which was not in memory may be there as its file has
it. -/
def Remains (store : Store) (disk : Disk) (after : Store) : Prop :=
  after = store ∨ ∃ listId list, store.lists.find? listId = none ∧ store.stored listId disk = .ok list ∧
    after = store.hold listId list

/-- A list that is opened and kept leaves the store as it was, or it is what its file loads to. -/
theorem remains_hold (opened : store.openedList listId host = .ok list) :
    store.Remains host.disk (store.hold listId list) := by
  cases opens_of_openedList opened with
  | inMemory held => exact .inl (hold_eq_self held)
  | fetched absent named found =>
    have stored : store.stored listId host.disk = .ok list := by
      simp only [Store.stored, named, found]
      rfl
    exact .inr ⟨listId, list, absent, stored, rfl⟩

/-- Steps that put a file in place end as they are meant to. -/
theorem ending_of_moved {disk : Disk} {steps : List Step} {ending : Except Failure Unit} {meant : Bool}
    (moved : (carryOut listId path disk steps ending meant).moved = true) :
    (carryOut listId path disk steps ending meant).result = ending ∧ meant = true := by
  rw [carryOut] at moved ⊢
  cases done : disk.performAll steps with
  | mk after fault =>
    rw [done] at moved
    cases fault with
    | none => exact ⟨rfl, moved⟩
    | some fault => cases moved

/-- Where saves break off early, a save that put its file in place is done. -/
theorem save_of_moved (early : host.breaksEarly) (moved : (store.save listId list host).moved = true) :
    (store.save listId list host).result = .ok () := by
  rw [save] at moved ⊢
  cases named : store.filePath listId with
  | error failure =>
    rw [named] at moved
    cases moved
  | ok path =>
    simp only [named] at moved ⊢
    cases written : list.save with
    | error fault =>
      rw [written] at moved
      cases fault with
      | longNumber => cases moved
      | surrogate fault =>
        -- Nothing is ever moved when the text of the list cannot be encoded.
        simp only at moved
        split at moved <;> cases (ending_of_moved moved).2
    | ok bytes =>
      simp only [written] at moved ⊢
      cases broken : host.breakdown with
      | none =>
        simp only [broken] at moved ⊢
        exact (ending_of_moved moved).1
      | some breakdown =>
        simp only [broken] at moved
        cases (early breakdown path bytes broken).symm.trans (ending_of_moved moved).2

/-- An operation that put a file in place did not fail. -/
theorem answered_of_moved (early : host.breaksEarly)
    (moved : (store.perform listId operation host).moved = true) :
    ∃ answer, (store.perform listId operation host).result = .ok answer := by
  rw [perform] at moved ⊢
  dsimp only at moved ⊢
  cases kept : store.keep listId (store.lookUp listId host.disk) host with
  | mk result opened =>
    rw [kept] at moved
    cases result with
    | error failure => cases moved
    | ok list =>
      dsimp only [settle] at moved ⊢
      split at moved
      · cases moved
      · cases moved
      · cases moved
      · cases moved
      · cases moved
      · next after answer verdict noted =>
        have saved := save_of_moved early moved
        simp only [saved]
        exact ⟨answer, rfl⟩

/-- Where saves break off early, an operation that fails leaves the files of all lists alone. -/
theorem leaves_of_failed (early : host.breaksEarly)
    (failed : (store.perform listId operation host).result = .error failure)
    (named : store.filePath other = .ok path) :
    Leaves path host.disk (store.perform listId operation host).disk := by
  have course := course_perform store listId operation host
  by_cases same : other = listId
  · subst same
    cases moved : (store.perform other operation host).moved with
    | false => exact course.leaves_of_not_moved moved named
    | true =>
      obtain ⟨answer, answered⟩ := answered_of_moved early moved
      cases failed.symm.trans answered
  · exact course.leaves_other same named

/-- An operation that fails, but not over a file, changes nothing. -/
theorem remains_of_failed (filed : store.Filed) (dated : dated host)
    (failed : (store.perform listId operation host).result = .error failure)
    (kept : failure.isUnkept = false) :
    (store.perform listId operation host).disk = host.disk ∧
      store.Remains host.disk (store.perform listId operation host).store := by
  have course := course_perform store listId operation host
  generalize store.perform listId operation host = outcome at course failed
  cases course with
  | unopened why entries unopened => exact ⟨rfl, .inl rfl⟩
  | unchanged result entries opened idle honest => exact ⟨rfl, remains_hold opened⟩
  | unsaved why entries opened left undated => exact absurd dated undated
  | @saved list after answer saving entries opened changed course =>
    have unsaved : saving.result = .error failure := by
      cases result : saving.result with
      | error why =>
        rw [result] at failed
        cases failed
        rfl
      | ok done =>
        rw [result] at failed
        cases failed
    rcases course.reason unsaved with unnamed | reason
    · obtain ⟨path, named⟩ := filed.named opened
      cases unnamed.symm.trans named
    · cases kept.symm.trans (Failure.isUnkept_of_isFailedSave reason)

/-- An operation says that a list cannot be put in its file if that is so of the changed list, and leaves the change in
memory. -/
theorem changed_of_unstorable {what : Unstorable} (dated : dated host)
    (failed : (store.perform listId operation host).result = .error (.unstorable what)) :
    ∃ list changed answer, store.openedList listId host = .ok list ∧
      (list.attempt listId host.clock.second operation).verdict = .changed changed answer ∧
      store.Unputtable listId changed host what ∧
      (store.perform listId operation host).store = store.hold listId changed := by
  have course := course_perform store listId operation host
  cases (perform_unexpected_iff dated).mp ⟨failed, rfl⟩ with
  | @unstorable list changed answer what opened verdict unputtable =>
    refine ⟨list, changed, answer, opened, verdict, unputtable, ?_⟩
    generalize store.perform listId operation host = outcome at course failed
    cases course with
    | unopened why entries unopened => cases opened.symm.trans unopened
    | unchanged result entries opened' idle honest =>
      cases opened.symm.trans opened'
      rw [verdict] at idle
      cases idle
    | unsaved why entries opened' left undated => exact absurd dated undated
    | saved entries opened' verdict' course =>
      cases opened.symm.trans opened'
      cases verdict.symm.trans verdict'
      rfl

end Store

namespace Tool

variable {Job Report : Type}

/-- A call that fails leaves everything intact. If it does not fail over a file, every file is as it was, and
so is every list in memory, but that one which was not there may now be as its file has it. If it fails over a
file, it asked for an operation on some list; the files of all lists are as they were, and so are all other
lists in memory. If the changed list cannot be put in its file at all, it is in memory with the change that was asked
for. -/
theorem failed_call_intact (perform : Job → Workspace → Report × Workspace) (number : Nat)
    (workspace : Workspace) (present : number < workspace.desks.length)
    (dated : Store.dated workspace.host) (filed : (workspace.desk number).store.Filed)
    (early : workspace.host.breaksEarly) (parameters : Parameters) (failure : Failure)
    (failed : (Script.run perform (execute number parameters).run workspace).1 = .error failure) :
    let store := (workspace.desk number).store
    let after := (Script.run perform (execute number parameters).run workspace).2
    (failure.isUnkept = false →
      after.disk = workspace.disk ∧ store.Remains workspace.disk (after.desk number).store) ∧
    (failure.isUnkept = true →
      (∀ listId path, store.filePath listId = .ok path → Leaves path workspace.disk after.disk) ∧
      ∃ listId operation, request? (workspace.desk number) parameters = some (listId, operation) ∧
        (∀ other, other ≠ listId → (after.desk number).store.lists.find? other = store.lists.find? other) ∧
        ∀ what, failure = .unstorable what → ∃ list changed answer,
          store.openedList listId workspace.host = .ok list ∧
            (list.attempt listId workspace.host.clock.second operation).verdict = .changed changed answer ∧
            store.Unputtable listId changed workspace.host what ∧
            (after.desk number).store = store.hold listId changed) := by
  intro store after
  cases fit : request? (workspace.desk number) parameters with
  | none =>
    obtain ⟨what, entries, ran⟩ := run_execute_invalid perform dated fit
    rw [ran] at failed
    cases failed
    have noted : after = workspace.record entries := congrArg Prod.snd ran
    have disk : after.disk = workspace.disk := by rw [noted, Workspace.disk_record]
    have desk : after.desk number = workspace.desk number := by
      rw [noted, Workspace.desk_congr (Workspace.desks_record _ _)]
    exact ⟨fun _ => ⟨disk, .inl (congrArg Desk.store desk)⟩, nofun⟩
  | some request =>
    obtain ⟨listId, operation⟩ := request
    obtain ⟨entries, ran⟩ := run_execute_request perform dated fit
    have reached : after = ((workspace.record entries).perform number listId operation).2 :=
      congrArg Prod.snd ran
    have stays : number < (workspace.record entries).desks.length := by rwa [Workspace.desks_record]
    have carries := Workspace.carries_perform stays listId operation
    rw [Workspace.desk_congr (Workspace.desks_record _ _), Workspace.host_record, ← reached] at carries
    have course := Store.course_perform store listId operation workspace.host
    rw [ran, carries.result] at failed
    rw [carries.disk, carries.store]
    cases asked : (store.perform listId operation workspace.host).result with
    | error why =>
      rw [asked] at failed
      cases failed
      refine ⟨fun kept => Store.remains_of_failed filed dated asked kept, fun _ => ⟨?_, ?_⟩⟩
      · exact fun other path named => Store.leaves_of_failed early asked named
      · refine ⟨listId, operation, rfl, fun other ne => course.find?_other ne, ?_⟩
        rintro what rfl
        exact Store.changed_of_unstorable dated asked
    | ok found =>
      rw [asked] at failed
      obtain ⟨taskId, rfl, rfl⟩ := notFound_of_answer failed
      -- The store answers that there is no such task, so that it was asked for nothing else.
      generalize store.perform listId (.get taskId) workspace.host = outcome at course asked
      cases course with
      | unopened why entries unopened => cases asked
      | unchanged result entries opened idle honest =>
        exact ⟨fun _ => ⟨rfl, Store.remains_hold opened⟩, nofun⟩
      | unsaved why entries opened left undated => cases asked
      | saved entries opened changed course => cases changed

/-- A folder with the file of a list of one task, at a time when saves go as the breakdown says. -/
def shelf (breakdown : Option Breakdown) : Workspace :=
  { Workspace.start (.ofInt 5)
      ⟨[(["d"], .folder), (["d", "tasks"], .folder),
        (["d", "tasks", "l.json"], .file (TaskList.empty.grown "s" "" 5).saved)]⟩ 0 true with
    breakdown := breakdown
    desks := [⟨default, ⟨⟨.here, ["d", "tasks"]⟩, .empty, 0⟩, "l", "l", "a"⟩] }

/-- The disk gives up after the first three bytes of the file that is written beside the target. -/
def filling : Workspace := shelf (some ⟨"no space", 1, some 3⟩)

/-- A surrogate. -/
def lone : Text := .ofList [CodePoint.ofNat 0xD800]

/-- A call, with nobody else about. -/
def answered (workspace : Workspace) (parameters : Parameters) : Except Failure ToolAnswer × Workspace :=
  Script.run (fun (job : Empty) _ => (nomatch job : Unit × Workspace)) (execute 0 parameters).run workspace

/-- A call for a task that is not there, one for a new task that cannot be saved because the disk gives up, and one
for a new task that no file can hold. -/
theorem failed_call_intact_shelf :
    (answered filling [("action", .string "get"), ("task_id", .string "9")]).1 = .error (.notFound "9") ∧
      (answered filling [("action", .string "get"), ("task_id", .string "9")]).2.disk = filling.disk ∧
      (∃ failure, (answered filling [("action", .string "create"), ("subject", .string "t")]).1 = .error failure ∧
        failure.isUnkept = true) ∧
      Leaves ⟨.here, ["d", "tasks", "l.json"]⟩ filling.disk
        (answered filling [("action", .string "create"), ("subject", .string "t")]).2.disk ∧
      (answered (shelf none) [("action", .string "create"), ("subject", .string lone)]).1 =
        .error (.unstorable (.contents ⟨CodePoint.ofNat 0xD800, 296, 1⟩)) ∧
      ∃ changed, ((answered (shelf none) [("action", .string "create"), ("subject", .string lone)]).2.desk 0).store =
        ((shelf none).desk 0).store.hold "l" changed := by
  have dated (breakdown : Option Breakdown) : Store.dated (shelf breakdown).host := ⟨⟨5, rfl⟩, fun _ => ⟨_, rfl⟩⟩
  have filed (breakdown : Option Breakdown) : ((shelf breakdown).desk 0).store.Filed := Store.filed_empty _ 0
  have stops : filling.host.breaksEarly := by
    intro breakdown path bytes broken
    cases broken
    rfl
  have goesOn : (shelf none).host.breaksEarly := nofun
  have here : (filling.desk 0).store.filePath "l" = .ok ⟨.here, ["d", "tasks", "l.json"]⟩ := by decide +kernel
  have missed : (answered filling [("action", .string "get"), ("task_id", .string "9")]).1 =
      .error (.notFound "9") := by decide +kernel
  obtain ⟨failure, refused, unkept⟩ : ∃ failure,
      (answered filling [("action", .string "create"), ("subject", .string "t")]).1 = .error failure ∧
        failure.isUnkept = true :=
    ⟨.unkept (.unsaved "l" ⟨.here, ["d", "tasks", "l.json"]⟩ (.refused "no space")), by decide +kernel, rfl⟩
  have unheld : (answered (shelf none) [("action", .string "create"), ("subject", .string lone)]).1 =
      .error (.unstorable (.contents ⟨CodePoint.ofNat 0xD800, 296, 1⟩)) := by decide +kernel
  have asks : request? ((shelf none).desk 0) [("action", .string "create"), ("subject", .string lone)] =
      some (("l" : Text), Operation.create lone "") := rfl
  rw [answered] at missed refused unheld
  rw [answered, answered, answered]
  obtain ⟨intact, -⟩ := failed_call_intact _ 0 filling (by decide) (dated _) (filed _) stops
    [("action", .string "get"), ("task_id", .string "9")] (.notFound "9") missed
  obtain ⟨-, unmoved⟩ := failed_call_intact _ 0 filling (by decide) (dated _) (filed _) stops
    [("action", .string "create"), ("subject", .string "t")] failure refused
  obtain ⟨-, unput⟩ := failed_call_intact _ 0 (shelf none) (by decide) (dated _) (filed _) goesOn
    [("action", .string "create"), ("subject", .string lone)] _ unheld
  obtain ⟨-, listId, operation, asked, -, left⟩ := unput rfl
  obtain ⟨list, changed, answer, -, -, -, kept⟩ := left _ rfl
  cases asks.symm.trans asked
  exact ⟨missed, (intact rfl).1, ⟨failure, refused, unkept⟩, (unmoved unkept).1 "l" _ here, unheld, changed, kept⟩

end Tool

end Taskboard
