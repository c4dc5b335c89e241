import Taskboard.Proofs.Disk.Alike
import Taskboard.Proofs.Store.Run

/-!
# What an operation does to the disk

What an operation does to the disk is replacing the file of its list, or a part of that. Once its list is
opened, which steps it takes depends neither on the disk nor on other lists, and its result depends on how
those steps end. Such a `Plan` comes to the same on disks that are alike for the files of the list, and leaves
disks alike for the files of other lists.
-/

namespace Taskboard

open Disk

namespace Store

variable {store other : Store} {listId : Text} {operation : Operation} {moment : Moment} {folder : Path}
  {target : Location} {disk disk' after : Disk} {α β : Type}

/-- The names that a save of a list uses: that of its file and that of the file beside it. -/
def fileNames (listId : Text) : List Text := [listId ++ ".json", listId ++ ".json" ++ ".tmp"]

/-- The names of different lists are different. -/
theorem fileNames_disjoint {another : Text} (ne : listId ≠ another) :
    ∀ name ∈ fileNames listId, name ∉ fileNames another := by
  intro name mem mem'
  rw [fileNames, List.mem_cons, List.mem_singleton] at mem mem'
  rcases mem with rfl | rfl <;> rcases mem' with same | same
  · exact ne (fileName_injective same)
  · exact fileName_ne_beside same
  · exact fileName_ne_beside same.symm
  · exact ne (fileName_injective (Text.append_left_inj.mp same))

/-- What is to be done to the disk for a list, and what that comes to, given how it ends. -/
structure Plan (folder : Path) (listId : Text) (α : Type) where
  /-- The steps. -/
  steps : List Step
  /-- The result, given the failure, if there is one. -/
  result : Option DiskFault → Except Failure α
  /-- The steps replace the file of the list, or are a part of that. -/
  replaces : Replacing folder (listId ++ ".json") (listId ++ ".json" ++ ".tmp") steps

namespace Plan

/-- Whether carrying out a plan on a disk comes to this result and this disk. -/
def Yields (plan : Plan folder listId α) (disk : Disk) (result : Except Failure α) (after : Disk) : Prop :=
  result = plan.result (disk.performAll plan.steps).fault ∧ after = (disk.performAll plan.steps).disk

/-- The plan to do nothing. -/
def idle (folder : Path) (listId : Text) (result : Except Failure α) : Plan folder listId α :=
  ⟨[], fun _ => result, .nothing⟩

/-- Doing nothing comes to the result, and the disk stays. -/
theorem idle_yields (result : Except Failure α) (disk : Disk) :
    (idle folder listId result).Yields disk result disk := ⟨rfl, rfl⟩

/-- The plan with another answer. -/
def map (f : α → β) (plan : Plan folder listId α) : Plan folder listId β :=
  ⟨plan.steps, fun fault => (plan.result fault).map f, plan.replaces⟩

/-- It comes to the result with the other answer. -/
theorem Yields.map {plan : Plan folder listId α} {result : Except Failure α} (f : α → β)
    (h : plan.Yields disk result after) : (plan.map f).Yields disk (result.map f) after :=
  ⟨congrArg (Except.map f) h.1, h.2⟩

/-- On disks that are alike for the names of the list, a plan comes to the same and leaves them alike. -/
theorem Yields.alike {plan : Plan folder listId α} {result result' : Except Failure α} {after' : Disk}
    (h : plan.Yields disk result after) (h' : plan.Yields disk' result' after')
    (alike : Disk.Alike folder target (fileNames listId) disk disk') :
    result = result' ∧ Disk.Alike folder target (fileNames listId) after after' := by
  obtain ⟨fault, still⟩ :=
    alike.replacing (append_ne_dots (by decide)) (append_ne_dots (by decide)) plan.replaces
  rw [h.1, h'.1, h.2, h'.2, fault]
  exact ⟨rfl, still⟩

/-- A plan for one list, carried out on one of two disks, leaves them alike for another list. -/
theorem Yields.aside {plan : Plan folder listId α} {result : Except Failure α} {another : Text}
    (h : plan.Yields disk result after) (ne : another ≠ listId)
    (alike : Disk.Alike folder target (fileNames another) disk disk') :
    Disk.Alike folder target (fileNames another) after disk' := by
  rw [h.2]
  exact alike.aside (append_ne_dots (by decide)) (append_ne_dots (by decide)) (fileNames_disjoint ne)
    plan.replaces

/-- The plan to carry out some steps of a save, which ends as given if the disk does them all. -/
def carryOut {steps : List Step} (replaces : Replacing folder (listId ++ ".json") (listId ++ ".json" ++ ".tmp") steps)
    (ending : Except Failure Unit) : Plan folder listId Unit :=
  ⟨steps, fun fault => fault.elim ending fun fault =>
    .error (unsaved listId (folder.child (listId ++ ".json")) fault), replaces⟩

/-- It comes to what carrying out the steps comes to. -/
theorem carryOut_yields {steps : List Step}
    (replaces : Replacing folder (listId ++ ".json") (listId ++ ".json" ++ ".tmp") steps)
    (ending : Except Failure Unit) (moved : Bool) (disk : Disk) :
    let saving := Store.carryOut listId (folder.child (listId ++ ".json")) disk steps ending moved
    (carryOut replaces ending).Yields disk saving.result saving.disk := by
  simp only [Store.carryOut, Yields, carryOut]
  cases disk.performAll steps with
  | mk after fault => cases fault <;> exact ⟨rfl, rfl⟩

end Plan

/-- The steps before the move are those of replacing a file. -/
theorem openingSteps_child (folder : Path) (file : Text) (bytes : List UInt8) :
    openingSteps (folder.child file) bytes =
      [.ensureFolders folder, .write (folder.child (file ++ ".tmp")) bytes] := by
  rw [openingSteps, beside, Path.parent_child, Path.withSuffix_child]

/-- So are all the steps of a save. -/
theorem saveSteps_child (folder : Path) (file : Text) (bytes : List UInt8) :
    saveSteps (folder.child file) bytes =
      [.ensureFolders folder, .write (folder.child (file ++ ".tmp")) bytes,
        .rename (folder.child (file ++ ".tmp")) (folder.child file)] := by
  rw [saveSteps, openingSteps_child, beside, Path.withSuffix_child]
  rfl

/-- A save replaces the file. -/
theorem replacing_saveSteps (folder : Path) (file : Text) (bytes : List UInt8) :
    Replacing folder file (file ++ ".tmp") (saveSteps (folder.child file) bytes) := by
  rw [saveSteps_child]
  exact .moved bytes

/-- What comes before the move is a part of that. -/
theorem replacing_openingSteps (folder : Path) (file : Text) (bytes : List UInt8) :
    Replacing folder file (file ++ ".tmp") (openingSteps (folder.child file) bytes) := by
  rw [openingSteps_child]
  exact .written bytes

/-- What is carried out of what comes before the move is a part of it, too. -/
theorem replacing_begun (folder : Path) (file : Text) (bytes : List UInt8) (breakdown : Breakdown) :
    Replacing folder file (file ++ ".tmp") (breakdown.carriedOut (openingSteps (folder.child file) bytes)) := by
  obtain ⟨text, count, part⟩ := breakdown
  rw [openingSteps_child]
  match count, part with
  | 0, none => exact .nothing
  | 0, some part => exact .begun part
  | 1, none =>
    have whole : Replacing folder file (file ++ ".tmp")
      [.ensureFolders (front folder folder.names.length)] := .begun _
    rwa [front_length] at whole
  | 1, some part => exact .written (bytes.take part)
  | count + 2, part =>
    have late : Breakdown.comesAfter ⟨text, count + 2, part⟩ (openingSteps (folder.child file) bytes) = true :=
      decide_eq_true (Nat.le_add_left 2 count)
    rw [← openingSteps_child, Breakdown.carriedOut_of_comesAfter late, openingSteps_child]
    exact .written bytes

/-- What is carried out of a save replaces the file, or is a part of that. -/
theorem replacing_carriedOut (folder : Path) (file : Text) (bytes : List UInt8) (breakdown : Breakdown) :
    Replacing folder file (file ++ ".tmp") (breakdown.carriedOut (saveSteps (folder.child file) bytes)) := by
  cases late : breakdown.comesAfter (saveSteps (folder.child file) bytes) with
  | false =>
    rw [carriedOut_saveSteps late]
    exact replacing_begun folder file bytes breakdown
  | true =>
    rw [Breakdown.carriedOut_of_comesAfter late]
    exact replacing_saveSteps folder file bytes

/-- A save carries out a plan that does not depend on the disk. -/
theorem save_planned (folder : Path) (listId : Text) (list : TaskList) (moment : Moment) :
    ∃ plan : Plan folder listId Unit, ∀ (store : Store) (disk : Disk), store.folder = folder →
      let saving := store.save listId list (moment.host disk)
      plan.Yields disk saving.result saving.disk := by
  cases valid : isListId listId with
  | false =>
    refine ⟨.idle folder listId (.error (.invalid (.badListId listId))), fun store disk _ => ?_⟩
    rw [save, filePath, valid]
    exact Plan.idle_yields _ disk
  | true =>
    have named (store : Store) (within : store.folder = folder) :
        store.filePath listId = .ok (folder.child (listId ++ ".json")) := by
      rw [filePath, valid, within]
      rfl
    let path := folder.child (listId ++ ".json")
    cases written : list.save with
    | ok bytes =>
      cases planned : moment.breakdown with
      | none =>
        refine ⟨.carryOut (replacing_saveSteps folder _ bytes) (.ok ()), fun store disk within => ?_⟩
        rw [save, named store within, written]
        simp only [Moment.host, planned]
        exact Plan.carryOut_yields _ _ true disk
      | some breakdown =>
        refine ⟨.carryOut (replacing_carriedOut folder _ bytes breakdown)
          (.error (.unkept (.unsaved listId path (.refused breakdown.text)))), fun store disk within => ?_⟩
        rw [save, named store within, written]
        simp only [Moment.host, planned]
        exact Plan.carryOut_yields _ _ _ disk
    | error fault =>
      cases fault with
      | longNumber =>
        refine ⟨.idle folder listId (.error (.unkept (.unwritable listId))), fun store disk within => ?_⟩
        rw [save, named store within, written]
        exact Plan.idle_yields _ disk
      | surrogate fault =>
        cases planned : moment.breakdown with
        | none =>
          refine ⟨.carryOut (replacing_openingSteps folder _ []) (.error (.unstorable (.contents fault))),
            fun store disk within => ?_⟩
          rw [save, named store within, written]
          simp only [Moment.host, planned]
          exact Plan.carryOut_yields _ _ false disk
        | some breakdown =>
          refine ⟨.carryOut (replacing_begun folder _ [] breakdown)
            (.error (if breakdown.comesAfter (openingSteps path []) then .unstorable (.contents fault)
              else .unkept (.unsaved listId path (.refused breakdown.text)))), fun store disk within => ?_⟩
          rw [save, named store within, written]
          simp only [Moment.host, planned]
          exact Plan.carryOut_yields _ _ false disk

/-- The second half of an operation carries out a plan that does not depend on the disk. -/
theorem settle_planned (folder : Path) (listId : Text) (list : TaskList) (operation : Operation)
    (moment : Moment) :
    ∃ plan : Plan folder listId operation.Answer, ∀ (store : Store) (disk : Disk), store.folder = folder →
      let outcome := store.settle listId list operation (moment.host disk)
      plan.Yields disk outcome.result outcome.disk := by
  let attempt := list.attempt listId moment.clock.second operation
  have verdict (disk : Disk) :
      (list.attempt listId (moment.host disk).clock.second operation).verdict = attempt.verdict := rfl
  have noting (disk : Disk) :
      (moment.host disk).notingAll (list.attempt listId (moment.host disk).clock.second operation).entries =
        (moment.host .empty).notingAll attempt.entries := rfl
  -- Where nothing is saved, the result is the one that any store gives on any disk.
  have idle (same : ∀ (store : Store) (disk : Disk),
      (store.settle listId list operation (moment.host disk)).result =
          (settle ⟨folder, .empty, 0⟩ listId list operation (moment.host .empty)).result ∧
        (store.settle listId list operation (moment.host disk)).disk = disk) :
      ∃ plan : Plan folder listId operation.Answer, ∀ (store : Store) (disk : Disk), store.folder = folder →
        let outcome := store.settle listId list operation (moment.host disk)
        plan.Yields disk outcome.result outcome.disk :=
    ⟨.idle folder listId _, fun store disk _ => same store disk⟩
  cases is : attempt.verdict with
  | brokenOff after failure =>
    refine idle fun store disk => ?_
    simp only [settle, verdict, is, true_and]
    rfl
  | refused failure =>
    refine idle fun store disk => ?_
    simp only [settle, verdict, noting, is]
    cases (moment.host .empty).notingAll attempt.entries <;> exact ⟨rfl, rfl⟩
  | answered answer =>
    refine idle fun store disk => ?_
    simp only [settle, verdict, noting, is]
    cases (moment.host .empty).notingAll attempt.entries <;> exact ⟨rfl, rfl⟩
  | changed after answer =>
    cases noted : (moment.host .empty).notingAll attempt.entries with
    | error failure =>
      refine idle fun store disk => ?_
      simp only [settle, verdict, noting, is, noted, true_and]
      rfl
    | ok done =>
      obtain ⟨plan, saves⟩ := save_planned folder listId after moment
      refine ⟨plan.map fun _ => answer, fun store disk within => ?_⟩
      simp only [settle, verdict, noting, is, noted]
      exact (saves (store.hold listId after) disk within).map fun _ => answer

/-- An operation carries out a plan that depends on the opened list, but not on the disk or other lists. -/
theorem perform_planned (folder : Path) (listId : Text) (operation : Operation) (moment : Moment)
    (opened : Except Failure TaskList) :
    ∃ plan : Plan folder listId operation.Answer, ∀ (store : Store) (disk : Disk), store.folder = folder →
      store.openedList listId (moment.host disk) = opened →
      let outcome := store.perform listId operation (moment.host disk)
      plan.Yields disk outcome.result outcome.disk := by
  cases opened with
  | error failure =>
    refine ⟨.idle folder listId (.error failure), fun store disk _ failed => ?_⟩
    obtain ⟨result, -, same⟩ := perform_of_unopened operation failed
    exact ⟨result, same⟩
  | ok list =>
    obtain ⟨plan, settles⟩ := settle_planned folder listId list operation moment
    refine ⟨plan, fun store disk within opened => ?_⟩
    rw [openedList] at opened
    rw [perform]
    simp only
    cases kept : store.keep listId (store.lookUp listId (moment.host disk).disk) (moment.host disk) with
    | mk result stood =>
      rw [kept] at opened
      obtain rfl : result = .ok list := opened
      have folders : stood.folder = folder := by
        rw [(keep_ok kept).1]
        exact within
      exact settles stood disk folders

/-- What is opened depends on the list in memory and on what is read from the file. -/
theorem openedList_congr (same : store.folder = other.folder) (room : store.spare = other.spare)
    (memory : store.lists.find? listId = other.lists.find? listId)
    (reads : ∀ path, store.filePath listId = .ok path → disk.read path = disk'.read path) :
    store.openedList listId (moment.host disk) = other.openedList listId (moment.host disk') := by
  have named : other.filePath listId = store.filePath listId := by rw [filePath, filePath, same]
  rw [openedList, openedList, lookUp, lookUp, ← memory, named]
  cases store.lists.find? listId with
  | some list => rfl
  | none =>
    cases path : store.filePath listId with
    | error failure => rfl
    | ok path' =>
      have found : fetch store.spare listId path' disk = fetch other.spare listId path' disk' := by
        simp only [fetch, reads path' path, room]
      show (store.keep listId (.read (fetch store.spare listId path' disk)) (moment.host disk)).1 =
        (other.keep listId (.read (fetch other.spare listId path' disk')) (moment.host disk')).1
      have noting : (moment.host disk).noting = (moment.host disk').noting := rfl
      rw [found]
      cases fetch other.spare listId path' disk' with
      | error failure => rfl
      | ok pair =>
        simp only [keep, noting]
        cases (moment.host disk').noting <;> rfl

/-- The list that an operation leaves in memory is told by the opened one, or it is what was there. -/
theorem find?_perform {host : Host} :
    (store.perform listId operation host).store.lists.find? listId =
      match store.openedList listId host with
      | .error _ => store.lists.find? listId
      | .ok list => some ((list.attempt listId host.clock.second operation).verdict.left?.getD list) := by
  cases opened : store.openedList listId host with
  | error failure => rw [(perform_of_unopened operation opened).2.1]
  | ok list => exact (course_perform store listId operation host).held opened

end Store

end Taskboard
