import Taskboard.Proofs.Disk.Address
import Taskboard.Proofs.Store.Course

/-!
# Failures that nobody expects

While the clock shows what is needed, an operation fails in a way that nobody expects for four reasons only: the
disk cannot be asked for the file of its list, that file is nested too deep to be read, a new task would take an
identifier with too many digits, or the changed list cannot be put in its file. Everything else that goes wrong
when a list is opened, changed or saved is an expected failure.
-/

namespace Taskboard

namespace TaskList

variable {list : TaskList} {listId : Text} {second : Int}

/-- Where the clock shows a second, only a new task is refused in a way that nobody expects, and only because
its identifier has too many digits. -/
theorem refused_unexpected {operation : Operation} {failure : Failure}
    (refused : (list.attempt listId (.ok second) operation).verdict = .refused failure)
    (unexpected : failure.isExpected = false) :
    (∃ subject description, operation = .create subject description) ∧
      Decimal.tooLong list.nextId = true ∧ failure = .counterTooLong := by
  cases operation with
  | create subject description =>
    rw [attempt, create_verdict] at refused
    dsimp only at refused
    split at refused
    · next long =>
      cases refused
      exact ⟨⟨subject, description, rfl⟩, long, rfl⟩
    · cases refused
  | list status => cases refused
  | get taskId => cases refused
  | update taskId change =>
    simp only [attempt, update] at refused
    split at refused
    · cases refused
      cases unexpected
    · cases refused
  | claim taskId owner =>
    simp only [attempt, claim] at refused
    split at refused
    · cases refused
      cases unexpected
    · split at refused
      · cases refused
        cases unexpected
      · split at refused
        · cases refused
        · cases refused
          cases unexpected

end TaskList

namespace Store

open Disk

variable {store : Store} {listId : Text} {list : TaskList} {operation : Operation} {host : Host} {path : Path}
  {failure : Failure} {what : Unstorable}

/-- The steps that a save sets out to do, given the bytes of the list or why it has none. -/
def steps? (path : Path) : Except TaskList.SaveFault (List UInt8) → Option (List Step)
  | .error .longNumber => none
  | .error (.surrogate _) => some (openingSteps path [])
  | .ok bytes => some (saveSteps path bytes)

/-- What is carried out of some steps. -/
def carriedOut (host : Host) (steps : List Step) : List Step :=
  match host.breakdown with
  | none => steps
  | some breakdown => breakdown.carriedOut steps

/-- Why a list cannot be put in its file. -/
inductive Unputtable (store : Store) (listId : Text) (list : TaskList) (host : Host) : Unstorable → Prop where
  /-- A surrogate stands in its texts. This is noticed once the file beside the target is open. -/
  | contents {path : Path} {fault : Utf8.EncodeFault} (named : store.filePath listId = .ok path)
      (written : list.save = .error (.surrogate fault))
      (goesOn : ∀ breakdown, host.breakdown = some breakdown → breakdown.comesAfter (openingSteps path []) = true)
      (done : (host.disk.performAll (carriedOut host (openingSteps path []))).fault = none) :
      Unputtable store listId list host (.contents fault)
  /-- The disk cannot be asked for a path. -/
  | place {path : Path} {steps : List Step} {fault : DiskFault} (named : store.filePath listId = .ok path)
      (planned : steps? path list.save = some steps)
      (stopped : (host.disk.performAll (carriedOut host steps)).fault = some fault)
      (uncoded : fault.failure.code? = none) :
      Unputtable store listId list host (.place fault)

/-- How an operation fails in a way that nobody expects. -/
inductive Escapes (store : Store) (listId : Text) (operation : Operation) (host : Host) : Failure → Prop where
  /-- The disk cannot be asked for the file of the list. -/
  | unaddressable {path : Path} {trouble : DiskFailure} (absent : store.lists.find? listId = none)
      (named : store.filePath listId = .ok path) (refused : refusal? path = some trouble)
      (uncoded : trouble.code? = none) :
      Escapes store listId operation host (.unaddressable ⟨trouble, path, none⟩)
  /-- The file of the list is nested too deep. -/
  | tooDeep {path : Path} {bytes : List UInt8} {container : Json.Container}
      (absent : store.lists.find? listId = none) (named : store.filePath listId = .ok path)
      (read : host.disk.read path = .ok bytes)
      (refused : TaskList.load store.spare bytes = .error (.notDocument (.tooDeep container))) :
      Escapes store listId operation host (.nestedTooDeep container)
  /-- The counter of the list has too many digits for a new task. -/
  | counterTooLong {list : TaskList} {subject description : Text} (create : operation = .create subject description)
      (opened : store.openedList listId host = .ok list) (long : Decimal.tooLong list.nextId = true) :
      Escapes store listId operation host .counterTooLong
  /-- The changed list cannot be put in its file. -/
  | unstorable {list after : TaskList} {answer : operation.Answer} {what : Unstorable}
      (opened : store.openedList listId host = .ok list)
      (changed : (list.attempt listId host.clock.second operation).verdict = .changed after answer)
      (unputtable : store.Unputtable listId after host what) :
      Escapes store listId operation host (.unstorable what)

/-- That a text does not name a list is expected. -/
theorem isExpected_of_filePath (h : store.filePath listId = .error failure) : failure.isExpected = true := by
  rw [filePath] at h
  split at h
  · cases h
  · cases h
    rfl

/-- A path that is refused is not read. -/
theorem read_of_refusal {trouble : DiskFailure} (refused : refusal? path = some trouble) (disk : Disk) :
    disk.read path = .error trouble := by
  rw [Disk.read, locate, refused]

/-- A file is not fetched in a way that nobody expects if the disk cannot be asked for it, or if it is nested
too deep. -/
theorem fetch_unexpected {spare : Nat} {disk : Disk} (failed : fetch spare listId path disk = .error failure)
    (unexpected : failure.isExpected = false) :
    (∃ trouble, refusal? path = some trouble ∧ trouble.code? = none ∧
      failure = .unaddressable ⟨trouble, path, none⟩) ∨
    ∃ bytes container, disk.read path = .ok bytes ∧
      TaskList.load spare bytes = .error (.notDocument (.tooDeep container)) ∧
      failure = .nestedTooDeep container := by
  rw [fetch] at failed
  split at failed
  · cases failed
  · next trouble _ refused =>
    cases failed
    rw [unreadable] at unexpected ⊢
    cases coded : trouble.code? with
    | some code =>
      rw [coded] at unexpected
      cases unexpected
    | none => exact .inl ⟨trouble, refusal_of_read refused coded, coded, rfl⟩
  · next bytes read =>
    split at failed
    · cases failed
    · next container refused =>
      cases failed
      exact .inr ⟨bytes, container, read, refused, rfl⟩
    · cases failed
      cases unexpected

/-- These are the only ways in which a list is not opened and nobody expects it. -/
theorem escapes_of_openedList (dated : dated host) (failed : store.openedList listId host = .error failure)
    (unexpected : failure.isExpected = false) : store.Escapes listId operation host failure := by
  rw [openedList, lookUp] at failed
  cases absent : store.lists.find? listId with
  | some list =>
    rw [absent] at failed
    cases failed
  | none =>
    rw [absent] at failed
    cases named : store.filePath listId with
    | error why =>
      rw [named] at failed
      cases failed
      have expected := isExpected_of_filePath named
      cases expected.symm.trans unexpected
    | ok path =>
      simp only [named, keep] at failed
      cases found : fetch store.spare listId path host.disk with
      | ok pair =>
        simp only [found, noting_of_dated dated] at failed
        cases failed
      | error why =>
        simp only [found] at failed
        cases failed
        rcases fetch_unexpected found unexpected with ⟨trouble, refused, uncoded, rfl⟩ |
          ⟨bytes, container, read, refused, rfl⟩
        · exact .unaddressable absent named refused uncoded
        · exact .tooDeep absent named read refused

/-- A list whose file the disk cannot be asked for is not opened. -/
theorem openedList_of_refusal {trouble : DiskFailure} (absent : store.lists.find? listId = none)
    (named : store.filePath listId = .ok path) (refused : refusal? path = some trouble)
    (uncoded : trouble.code? = none) :
    store.openedList listId host = .error (.unaddressable ⟨trouble, path, none⟩) := by
  have unread := read_of_refusal refused host.disk
  cases trouble with
  | nullCharacter => simp [openedList, lookUp, absent, named, fetch, unread, keep, unreadable, DiskFailure.code?]
  | unencodable fault =>
    simp [openedList, lookUp, absent, named, fetch, unread, keep, unreadable, DiskFailure.code?]
  | _ => cases uncoded

/-- A list whose file is nested too deep is not opened. -/
theorem openedList_of_tooDeep {bytes : List UInt8} {container : Json.Container}
    (absent : store.lists.find? listId = none) (named : store.filePath listId = .ok path)
    (read : host.disk.read path = .ok bytes)
    (refused : TaskList.load store.spare bytes = .error (.notDocument (.tooDeep container))) :
    store.openedList listId host = .error (.nestedTooDeep container) := by
  simp only [openedList, lookUp, absent, named, fetch, read, refused, keep]

/-- Steps of a save that are carried out fail it in a way that nobody expects if it is to end like that, or if the
disk cannot be asked for a path. -/
theorem carryOut_unexpected_iff {disk : Disk} {steps : List Step} {ending : Except Failure Unit} {moved : Bool} :
    (carryOut listId path disk steps ending moved).result = .error failure ∧ failure.isExpected = false ↔
      (disk.performAll steps).fault = none ∧ ending = .error failure ∧ failure.isExpected = false ∨
        ∃ fault, (disk.performAll steps).fault = some fault ∧ fault.failure.code? = none ∧
          failure = .unstorable (.place fault) := by
  rw [carryOut]
  cases disk.performAll steps with
  | mk after stopped =>
    cases stopped with
    | none => simp
    | some fault =>
      simp only [unsaved, Except.error.injEq, reduceCtorEq, false_and, false_or, Option.some.injEq,
        exists_eq_left']
      cases uncoded : fault.failure.code? with
      | none =>
        constructor
        · rintro ⟨rfl, -⟩
          exact ⟨rfl, rfl⟩
        · rintro ⟨-, rfl⟩
          exact ⟨rfl, rfl⟩
      | some code =>
        constructor
        · rintro ⟨rfl, unexpected⟩
          cases unexpected
        · rintro ⟨coded, -⟩
          cases coded

/-- A list that is to be saved by some steps cannot be put in its file if they are stopped without a number, or if
they are done and a surrogate stands in its texts. -/
theorem unputtable_iff {steps : List Step} (named : store.filePath listId = .ok path)
    (planned : steps? path list.save = some steps) :
    store.Unputtable listId list host what ↔
      (host.disk.performAll (carriedOut host steps)).fault = none ∧
          (∃ fault, list.save = .error (.surrogate fault) ∧ what = .contents fault) ∧
          (∀ breakdown, host.breakdown = some breakdown → breakdown.comesAfter steps = true) ∨
        ∃ fault, (host.disk.performAll (carriedOut host steps)).fault = some fault ∧
          fault.failure.code? = none ∧ what = .place fault := by
  constructor
  · intro unputtable
    cases unputtable with
    | @contents path' fault named' written goesOn done =>
      cases named.symm.trans named'
      rw [written] at planned
      cases planned
      exact .inl ⟨done, ⟨fault, written, rfl⟩, goesOn⟩
    | @place path' steps' fault named' planned' stopped uncoded =>
      cases named.symm.trans named'
      cases planned.symm.trans planned'
      exact .inr ⟨fault, stopped, uncoded, rfl⟩
  · rintro (⟨done, ⟨fault, written, rfl⟩, goesOn⟩ | ⟨fault, stopped, uncoded, rfl⟩)
    · rw [written] at planned
      cases planned
      exact .contents named written goesOn done
    · exact .place named planned stopped uncoded

/-- A list for which no steps are planned has a number that is too long, and is expected not to be saved. -/
theorem save_unplanned (named : store.filePath listId = .ok path) (unplanned : steps? path list.save = none) :
    (store.save listId list host).result = .error (.unkept (.unwritable listId)) := by
  rw [save, named]
  cases written : list.save with
  | ok bytes =>
    rw [written] at unplanned
    cases unplanned
  | error fault =>
    cases fault with
    | longNumber => rfl
    | surrogate fault =>
      rw [written] at unplanned
      cases unplanned

/-- A save carries out the steps that are planned for it. It is to end in a way that nobody expects only over a
surrogate, and only if no breakdown comes before that is noticed. -/
theorem save_planned_iff (host : Host) {steps : List Step} (named : store.filePath listId = .ok path)
    (planned : steps? path list.save = some steps) :
    ∃ ending moved, store.save listId list host =
        carryOut listId path host.disk (carriedOut host steps) ending moved ∧
      ∀ failure, ending = .error failure ∧ failure.isExpected = false ↔
        (∃ fault, list.save = .error (.surrogate fault) ∧ failure = .unstorable (.contents fault)) ∧
          ∀ breakdown, host.breakdown = some breakdown → breakdown.comesAfter steps = true := by
  rw [save, named, carriedOut]
  cases written : list.save with
  | ok bytes =>
    rw [written] at planned
    cases planned
    -- There is no surrogate, and a breakdown is expected.
    have none {failure : Failure} : ¬ ∃ fault : Utf8.EncodeFault,
        (Except.ok bytes : Except TaskList.SaveFault _) = .error (.surrogate fault) ∧
          failure = .unstorable (.contents fault) := by
      rintro ⟨fault, same, -⟩
      cases same
    cases host.breakdown with
    | none => exact ⟨_, _, rfl, fun failure => iff_of_false (fun both => by cases both.1) fun both => none both.1⟩
    | some breakdown =>
      refine ⟨_, _, rfl, fun failure => iff_of_false ?_ fun both => none both.1⟩
      rintro ⟨failed, unexpected⟩
      cases failed
      cases unexpected
  | error fault =>
    rw [written] at planned
    cases fault with
    | longNumber => cases planned
    | surrogate fault =>
      cases planned
      cases host.breakdown with
      | none =>
        refine ⟨_, _, rfl, fun failure => ⟨?_, ?_⟩⟩
        · rintro ⟨failed, -⟩
          cases failed
          exact ⟨⟨fault, rfl, rfl⟩, fun breakdown broken => by cases broken⟩
        · rintro ⟨⟨fault', same, rfl⟩, -⟩
          cases same
          exact ⟨rfl, rfl⟩
      | some breakdown =>
        refine ⟨_, _, rfl, fun failure => ⟨?_, ?_⟩⟩
        · rintro ⟨failed, unexpected⟩
          cases late : breakdown.comesAfter (openingSteps path []) with
          | true =>
            rw [late] at failed
            cases failed
            exact ⟨⟨fault, rfl, rfl⟩, fun other same => Option.some.inj same ▸ late⟩
          | false =>
            rw [late] at failed
            cases failed
            cases unexpected
        · rintro ⟨⟨fault', same, rfl⟩, goesOn⟩
          cases same
          rw [if_pos (goesOn breakdown rfl)]
          exact ⟨rfl, rfl⟩

/-- A save fails in a way that nobody expects exactly if the list cannot be put in its file. -/
theorem save_unexpected_iff :
    (store.save listId list host).result = .error failure ∧ failure.isExpected = false ↔
      ∃ what, store.Unputtable listId list host what ∧ failure = .unstorable what := by
  cases named : store.filePath listId with
  | error why =>
    constructor
    · rintro ⟨failed, unexpected⟩
      rw [save, named] at failed
      cases failed
      cases (isExpected_of_filePath named).symm.trans unexpected
    · rintro ⟨what, unputtable, rfl⟩
      cases unputtable with
      | contents named' written goesOn done => cases named.symm.trans named'
      | place named' planned stopped uncoded => cases named.symm.trans named'
  | ok path =>
    cases planned : steps? path list.save with
    | none =>
      rw [save_unplanned named planned]
      constructor
      · rintro ⟨failed, unexpected⟩
        cases failed
        cases unexpected
      · rintro ⟨what, unputtable, -⟩
        cases unputtable with
        | contents named' written goesOn done =>
          rw [written] at planned
          cases planned
        | place named' planned' stopped uncoded =>
          cases named.symm.trans named'
          cases planned.symm.trans planned'
    | some steps =>
      obtain ⟨ending, moved, saves, ends⟩ := save_planned_iff host named planned
      rw [saves, carryOut_unexpected_iff, ends failure]
      simp only [unputtable_iff named planned]
      constructor
      · rintro (⟨done, ⟨fault, written, rfl⟩, goesOn⟩ | ⟨fault, stopped, uncoded, rfl⟩)
        · exact ⟨_, .inl ⟨done, ⟨fault, written, rfl⟩, goesOn⟩, rfl⟩
        · exact ⟨_, .inr ⟨fault, stopped, uncoded, rfl⟩, rfl⟩
      · rintro ⟨what, ⟨done, ⟨fault, written, rfl⟩, goesOn⟩ | ⟨fault, stopped, uncoded, rfl⟩, rfl⟩
        · exact .inl ⟨done, ⟨fault, written, rfl⟩, goesOn⟩
        · exact .inr ⟨fault, stopped, uncoded, rfl⟩

/-- The list in memory has no influence on where a list is put. -/
theorem unputtable_hold {after : TaskList} :
    (store.hold listId after).Unputtable listId list host what ↔ store.Unputtable listId list host what := by
  constructor
  · intro unputtable
    cases unputtable with
    | contents named written goesOn done => exact .contents named written goesOn done
    | place named planned stopped uncoded => exact .place named planned stopped uncoded
  · intro unputtable
    cases unputtable with
    | contents named written goesOn done => exact .contents named written goesOn done
    | place named planned stopped uncoded => exact .place named planned stopped uncoded

/-- Where the clock shows what is needed, an operation fails if its list is not opened, if it is refused, or if
the changed list is not saved. -/
theorem result_perform (dated : dated host) :
    (store.perform listId operation host).result =
      match store.openedList listId host with
      | .error failure => .error failure
      | .ok list =>
        match (list.attempt listId host.clock.second operation).verdict with
        | .refused failure => .error failure
        | .answered answer => .ok answer
        | .changed after answer => ((store.hold listId after).save listId after host).result.map fun _ => answer
        | .brokenOff _ failure => .error failure := by
  rw [perform, openedList]
  cases kept : store.keep listId (store.lookUp listId host.disk) host with
  | mk result opened =>
    cases result with
    | error failure => rfl
    | ok list =>
      cases (keep_ok kept).1
      simp only [settle, notingAll_of_dated dated, hold_hold]
      cases (list.attempt listId host.clock.second operation).verdict <;> rfl

/-- Where the clock shows what is needed, an operation that fails and nobody expects it fails in one of the four ways. -/
theorem escapes_of_perform (dated : dated host)
    (failed : (store.perform listId operation host).result = .error failure)
    (unexpected : failure.isExpected = false) : store.Escapes listId operation host failure := by
  obtain ⟨second, shown⟩ := dated.1
  rw [result_perform dated] at failed
  cases opened : store.openedList listId host with
  | error why =>
    rw [opened] at failed
    cases failed
    exact escapes_of_openedList dated opened unexpected
  | ok list =>
    rw [opened] at failed
    simp only at failed
    cases verdict : (list.attempt listId host.clock.second operation).verdict with
    | answered answer =>
      rw [verdict] at failed
      cases failed
    | refused why =>
      rw [verdict] at failed
      cases failed
      rw [shown] at verdict
      obtain ⟨⟨subject, description, create⟩, long, rfl⟩ := TaskList.refused_unexpected verdict unexpected
      exact .counterTooLong create opened long
    | brokenOff after why =>
      obtain ⟨fault, undated⟩ := TaskList.now_of_brokenOff verdict
      cases shown.symm.trans undated
    | changed after answer =>
      rw [verdict] at failed
      dsimp only at failed
      cases saved : ((store.hold listId after).save listId after host).result with
      | ok done =>
        rw [saved] at failed
        cases failed
      | error why =>
        rw [saved] at failed
        cases failed
        obtain ⟨what, unputtable, rfl⟩ := save_unexpected_iff.mp ⟨saved, unexpected⟩
        exact .unstorable opened verdict (unputtable_hold.mp unputtable)

/-- Each of the four ways is one. -/
theorem perform_of_escapes (dated : dated host) (escapes : store.Escapes listId operation host failure) :
    (store.perform listId operation host).result = .error failure ∧ failure.isExpected = false := by
  obtain ⟨second, shown⟩ := dated.1
  rw [result_perform dated]
  cases escapes with
  | unaddressable absent named refused uncoded =>
    rw [openedList_of_refusal absent named refused uncoded]
    exact ⟨rfl, rfl⟩
  | tooDeep absent named read refused =>
    rw [openedList_of_tooDeep absent named read refused]
    exact ⟨rfl, rfl⟩
  | @counterTooLong list subject description create opened long =>
    subst create
    have verdict : (list.attempt listId (.ok second) (.create subject description)).verdict =
        .refused .counterTooLong := by
      rw [TaskList.attempt, TaskList.create_verdict]
      dsimp only
      rw [if_pos long]
      rfl
    rw [opened, shown]
    dsimp only
    rw [verdict]
    exact ⟨rfl, rfl⟩
  | unstorable opened changed unputtable =>
    rw [opened]
    dsimp only
    rw [changed]
    dsimp only
    obtain ⟨saved, unexpected⟩ := save_unexpected_iff.mpr ⟨_, unputtable_hold.mpr unputtable, rfl⟩
    rw [saved]
    exact ⟨rfl, unexpected⟩

/-- Where the clock shows what is needed, an operation fails and nobody expects it exactly if it fails in one of
the four ways. -/
theorem perform_unexpected_iff (dated : dated host) :
    (store.perform listId operation host).result = .error failure ∧ failure.isExpected = false ↔
      store.Escapes listId operation host failure :=
  ⟨fun both => escapes_of_perform dated both.1 both.2, perform_of_escapes dated⟩

/-- An operation fails over a list that cannot be put in its file exactly if what it makes of the opened list cannot. -/
theorem unstorable_iff (dated : dated host) (opened : store.openedList listId host = .ok list) :
    (store.perform listId operation host).result = .error (.unstorable what) ↔
      ∃ after answer, (list.attempt listId host.clock.second operation).verdict = .changed after answer ∧
        store.Unputtable listId after host what := by
  constructor
  · intro failed
    cases (perform_unexpected_iff dated).mp ⟨failed, rfl⟩ with
    | @unstorable list' after answer what opened' changed unputtable =>
      cases opened.symm.trans opened'
      exact ⟨after, answer, changed, unputtable⟩
  · rintro ⟨after, answer, changed, unputtable⟩
    exact ((perform_unexpected_iff dated).mpr (.unstorable opened changed unputtable)).1

end Store

end Taskboard
