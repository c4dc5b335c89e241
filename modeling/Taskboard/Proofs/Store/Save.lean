import Taskboard.Proofs.Disk.Tree
import Taskboard.Store.Basic

/-!
# What a save does to the disk

The file of a list and the file beside it have names that no other list uses. A save therefore either
leaves the files of all lists alone, or its last step is done and the file of its own list holds the saved
list, all others being left alone.
-/

namespace Taskboard

namespace Disk.Breakdown

/-- A breakdown after all of some steps stops none of them. -/
theorem carriedOut_of_comesAfter {breakdown : Breakdown} {steps : List Step}
    (h : breakdown.comesAfter steps = true) : breakdown.carriedOut steps = steps := by
  have enough : steps.length ≤ breakdown.after := of_decide_eq_true h
  have none : steps[breakdown.after]? = none := List.getElem?_eq_none enough
  rw [carriedOut, List.take_of_length_le enough, none]
  cases breakdown.part <;> exact List.append_nil steps

end Disk.Breakdown

/-- Whether a failure says that a list could not be saved. -/
def Failure.isFailedSave : Failure → Bool
  | .unkept (.unwritable _) | .unkept (.unsaved ..) | .unstorable _ => true
  | _ => false

namespace Store

open Disk

variable {store : Store} {listId other : Text} {path path' : Path} {bytes : List UInt8}
  {list : TaskList} {host : Host} {disk after : Disk}

/-- The file of a list lies in the folder of the store. -/
theorem filePath_eq (h : store.filePath listId = .ok path) :
    path = store.folder.child (listId ++ ".json") := by
  rw [filePath] at h
  split at h
  · cases h
    rfl
  · cases h

/-- The file beside that of a list lies in the same folder. -/
theorem beside_filePath (h : store.filePath listId = .ok path) :
    beside path = store.folder.child (listId ++ ".json" ++ ".tmp") := by
  rw [filePath_eq h, beside, Path.withSuffix_child]

/-- A name that ends in a long enough ending is not the two dots. -/
theorem append_ne_dots {ending : Text} (long : 2 < ending.length) : listId ++ ending ≠ ".." := by
  intro e
  have lengths := congrArg Text.length e
  have two : (".." : Text).length = 2 := rfl
  rw [Text.length_append, two] at lengths
  omega

/-- Different lists have different files. -/
theorem fileName_injective (h : listId ++ ".json" = other ++ ".json") : listId = other := by
  have texts := congrArg Text.toList h
  rw [Text.toList_append, Text.toList_append] at texts
  exact Text.toList_inj.mp (List.append_cancel_right texts)

/-- The file of a list is not the file beside that of a list. -/
theorem fileName_ne_beside : listId ++ ".json" ≠ other ++ ".json" ++ ".tmp" := by
  intro e
  have texts := congrArg (fun text => text.toList.getLast?) e
  simp [Text.toList_append] at texts

/-- The file of a list is another one than the file beside it. -/
theorem apart_beside (h : store.filePath listId = .ok path) : Apart path [beside path] := by
  intro place here file mem there
  rw [List.mem_singleton.mp mem, beside_filePath h] at there
  rw [filePath_eq h] at here
  exact fileName_ne_beside
    (name_of_place? (append_ne_dots (by decide)) (append_ne_dots (by decide)) here there)

/-- The file of a list is another one than the two of another list. -/
theorem apart_other (ne : other ≠ listId) (h : store.filePath listId = .ok path)
    (h' : store.filePath other = .ok path') : Apart path' [beside path, path] := by
  intro place here file mem there
  rw [filePath_eq h'] at here
  rcases List.mem_cons.mp mem with rfl | mem
  · rw [beside_filePath h] at there
    exact fileName_ne_beside
      (name_of_place? (append_ne_dots (by decide)) (append_ne_dots (by decide)) here there)
  · rw [List.mem_singleton.mp mem, filePath_eq h] at there
    exact ne (fileName_injective
      (name_of_place? (append_ne_dots (by decide)) (append_ne_dots (by decide)) here there))

/-- The steps of a save before the move are preparations. -/
theorem prepares_openingSteps : ∀ step ∈ openingSteps path bytes, step.prepares (beside path) := by
  intro step mem
  rcases List.mem_cons.mp mem with rfl | mem
  · trivial
  · rw [List.mem_singleton.mp mem]
    exact rfl

/-- What is done of preparations before they break off is preparations. -/
theorem prepares_carriedOut {breakdown : Breakdown} {steps : List Step}
    (prepares : ∀ step ∈ steps, step.prepares path) :
    ∀ step ∈ breakdown.carriedOut steps, step.prepares path := by
  have begun (count : Nat) (step : Step) (prepares : step.prepares path) :
      ∀ step' ∈ step.begun count, step'.prepares path := by
    cases step with
    | ensureFolders path => exact fun step' mem => by rw [List.mem_singleton.mp mem]; trivial
    | write path bytes =>
      intro step' mem
      rw [List.mem_singleton.mp mem]
      exact prepares
    | rename source target => exact nofun
  intro step mem
  rw [Breakdown.carriedOut] at mem
  rcases List.mem_append.mp mem with mem | mem
  · exact prepares step (List.mem_of_mem_take mem)
  · split at mem
    · next count next part reached => exact begun count next (prepares next (List.mem_of_getElem? reached)) step mem
    · cases mem

/-- A save that breaks off before the move does what is done before the move. -/
theorem carriedOut_saveSteps {breakdown : Breakdown}
    (early : breakdown.comesAfter (saveSteps path bytes) = false) :
    breakdown.carriedOut (saveSteps path bytes) = breakdown.carriedOut (openingSteps path bytes) := by
  obtain ⟨text, count, part⟩ := breakdown
  have few : count < 3 := by
    have late : ¬ 3 ≤ count := of_decide_eq_false early
    omega
  match count, few with
  | 0, _ => cases part <;> rfl
  | 1, _ => cases part <;> rfl
  | 2, _ => cases part <;> rfl

/-- The steps of a save either stop early, with every file but the one beside untouched, or the folder is
made, and then the file holds what was saved, and a tree is still a tree. -/
theorem performAll_saveSteps {result : Result} (h : disk.performAll (saveSteps path bytes) = result) :
    result.fault ≠ none ∧ Spares [beside path] disk result.disk ∨
      result.fault = none ∧ ∃ middle, disk.ensureFolders path.parent = ⟨middle, none⟩ ∧
        Changes [beside path, path] middle result.disk ∧ result.disk.read path = .ok bytes ∧
        (disk.IsTree → result.disk.IsTree) := by
  have made := spares_ensureFolders disk path.parent
  have madeTree (tree : disk.IsTree) := tree.ensureFolders path.parent
  cases folders : disk.ensureFolders path.parent with
  | mk middle fault =>
    rw [folders] at made madeTree
    have steps : saveSteps path bytes = [.ensureFolders path.parent, .write (beside path) bytes,
      .rename (beside path) path] := rfl
    rw [steps, Disk.performAll, Disk.perform, folders] at h
    cases fault with
    | some fault =>
      cases h
      exact .inl ⟨Option.some_ne_none _, made.mono (List.nil_subset _)⟩
    | none =>
      have wrote := changes_write middle (beside path) bytes
      have prepared := (made.mono (List.nil_subset [beside path])).trans wrote.spares
      cases written : middle.write (beside path) bytes with
      | mk full fault =>
        rw [written] at wrote prepared
        simp only [Disk.performAll, Disk.perform, written] at h
        cases fault with
        | some fault =>
          cases h
          exact .inl ⟨Option.some_ne_none _, prepared⟩
        | none =>
          -- What is moved is the file that was just written.
          have done : (middle.write (beside path) bytes).fault = none := by rw [written]
          obtain ⟨place, found, free, put⟩ := node?_write done
          rw [written] at put
          have there : full.node? place = some (.file bytes) := by
            have base := isBase_of_not_hasFolder free
            show (Result.disk ⟨full, none⟩).node? place = some (.file bytes)
            rw [put, node?_put _ _ _ _ base, if_pos rfl]
          have located := wrote.spares.locate found
          have moved := rename_changes path located there
          have movedTree (tree : disk.IsTree) : (full.rename (beside path) path).disk.IsTree := by
            have written' := (madeTree tree).write (beside path) bytes
            rw [written] at written'
            exact written'.rename path located there
          have unmoved (failed : (full.rename (beside path) path).fault ≠ none) := rename_failed failed
          cases renamed : full.rename (beside path) path with
          | mk last fault =>
            rw [renamed] at moved unmoved movedTree
            simp only [renamed] at h
            cases fault with
            | some fault =>
              cases h
              have same : last = full := unmoved (Option.some_ne_none _)
              exact .inl ⟨Option.some_ne_none _, same ▸ prepared⟩
            | none =>
              cases h
              obtain ⟨changes, read⟩ := moved rfl
              refine .inr ⟨rfl, middle, rfl, ?_, read, movedTree⟩
              exact (wrote.mono (by simp)).trans changes

/-- A save that is done spares all but the file and the one beside. -/
theorem spares_saveSteps (done : disk.performAll (saveSteps path bytes) = ⟨after, none⟩) :
    Spares [beside path, path] disk after := by
  rcases performAll_saveSteps done with ⟨stopped, -⟩ | ⟨-, middle, folders, changes, -, -⟩
  · exact absurd rfl stopped
  · have made := spares_ensureFolders disk path.parent
    rw [folders] at made
    exact (made.mono (List.nil_subset _)).trans changes.spares

/-- The courses that a save may take. -/
inductive Saved (store : Store) (listId : Text) (list : TaskList) (host : Host) : Saving → Prop where
  /-- The disk was not asked. -/
  | unasked (failure : Failure)
      (why : store.filePath listId = .error failure ∨ failure.isFailedSave = true) :
      Saved store listId list host ⟨.error failure, host.disk, false, false⟩
  /-- It stopped before the file was moved into place. -/
  | stopped {path : Path} {after : Disk} (failure : Failure) (named : store.filePath listId = .ok path)
      (spares : Spares [beside path] host.disk after) (failed : failure.isFailedSave = true) :
      Saved store listId list host ⟨.error failure, after, true, false⟩
  /-- The file was moved into place, whatever was said of it. -/
  | moved {path : Path} {bytes : List UInt8} {after : Disk} (result : Except Failure Unit)
      (named : store.filePath listId = .ok path) (written : list.save = .ok bytes)
      (done : host.disk.performAll (saveSteps path bytes) = ⟨after, none⟩)
      (failed : ∀ failure, result = .error failure → failure.isFailedSave = true) :
      Saved store listId list host ⟨result, after, true, true⟩

/-- What the disk does not do fails a save. -/
theorem isFailedSave_unsaved (listId : Text) (path : Path) (fault : DiskFault) :
    (unsaved listId path fault).isFailedSave = true := by
  rw [unsaved]
  split <;> rfl

/-- A save of which only preparations are carried out takes one of the courses. -/
theorem saved_prepared {failure : Failure} {steps : List Step} (named : store.filePath listId = .ok path)
    (prepares : ∀ step ∈ steps, step.prepares (beside path)) (failed : failure.isFailedSave = true) :
    Saved store listId list host (carryOut listId path host.disk steps (.error failure) false) := by
  have spares := spares_prepared host.disk prepares
  rw [carryOut]
  cases done : host.disk.performAll steps with
  | mk after fault =>
    rw [done] at spares
    cases fault with
    | none => exact .stopped _ named spares failed
    | some fault => exact .stopped _ named spares (isFailedSave_unsaved listId path fault)

/-- A save of which all steps are carried out takes one of the courses. -/
theorem saved_whole {ending : Except Failure Unit} (named : store.filePath listId = .ok path)
    (written : list.save = .ok bytes) (failed : ∀ failure, ending = .error failure → failure.isFailedSave = true) :
    Saved store listId list host (carryOut listId path host.disk (saveSteps path bytes) ending true) := by
  rw [carryOut]
  cases done : host.disk.performAll (saveSteps path bytes) with
  | mk after fault =>
    cases fault with
    | none => exact .moved _ named written done failed
    | some fault =>
      rcases performAll_saveSteps done with ⟨-, spares⟩ | ⟨none, -⟩
      · exact .stopped _ named spares (isFailedSave_unsaved listId path fault)
      · cases none

/-- Every save takes one of the courses. -/
theorem saved_save (store : Store) (listId : Text) (list : TaskList) (host : Host) :
    Saved store listId list host (store.save listId list host) := by
  rw [save]
  cases named : store.filePath listId with
  | error failure => exact .unasked failure (.inl named)
  | ok path =>
    simp only
    cases written : list.save with
    | error fault =>
      cases fault with
      | longNumber => exact .unasked _ (.inr rfl)
      | surrogate fault =>
        simp only
        cases host.breakdown with
        | none => exact saved_prepared named prepares_openingSteps rfl
        | some breakdown =>
          refine saved_prepared named (prepares_carriedOut prepares_openingSteps) ?_
          split <;> rfl
    | ok bytes =>
      simp only
      cases host.breakdown with
      | none => exact saved_whole named written nofun
      | some breakdown =>
        simp only
        cases whole : breakdown.comesAfter (saveSteps path bytes) with
        | false =>
          rw [carriedOut_saveSteps whole]
          exact saved_prepared named (prepares_carriedOut prepares_openingSteps) rfl
        | true =>
          rw [Breakdown.carriedOut_of_comesAfter whole]
          refine saved_whole named written fun failure said => ?_
          cases said
          rfl

namespace Saved

variable {saving : Saving}

/-- What is said to be saved was moved into place. -/
theorem moved_of_ok (h : Saved store listId list host saving) {done : Unit} (ok : saving.result = .ok done) :
    saving.moved = true := by
  cases h with
  | unasked failure why => cases ok
  | stopped failure named spares failed => cases ok
  | moved result named written done failed => rfl

/-- A save fails as a save, or because the list has no name for a file. -/
theorem reason (h : Saved store listId list host saving) {failure : Failure}
    (failed : saving.result = .error failure) :
    store.filePath listId = .error failure ∨ failure.isFailedSave = true := by
  cases h with
  | unasked why reason =>
    cases failed
    exact reason
  | stopped why named spares reason =>
    cases failed
    exact .inr reason
  | moved result named written done reason => exact .inr (reason failure failed)

/-- A list that was moved into place is read from its file. -/
theorem read_of_moved (h : Saved store listId list host saving) (moved : saving.moved = true) :
    ∃ path bytes, store.filePath listId = .ok path ∧ list.save = .ok bytes ∧
      saving.disk.read path = .ok bytes := by
  cases h with
  | unasked failure why => cases moved
  | stopped failure named spares failed => cases moved
  | @moved path bytes after result named written done failed =>
    rcases performAll_saveSteps done with ⟨stopped, -⟩ | ⟨-, middle, -, -, read, -⟩
    · exact absurd rfl stopped
    · exact ⟨path, bytes, named, written, read⟩

/-- A save that moves nothing into place leaves its own file alone. -/
theorem leaves_of_not_moved (h : Saved store listId list host saving) (still : saving.moved = false)
    (named : store.filePath listId = .ok path) : Leaves path host.disk saving.disk := by
  cases h with
  | unasked failure why => exact .refl path _
  | stopped failure named' spares failed =>
    cases named.symm.trans named'
    exact spares.leaves (apart_beside named)
  | moved result named written done failed => cases still

/-- Every save leaves the files of other lists alone. -/
theorem leaves_other (h : Saved store listId list host saving) (ne : other ≠ listId)
    (named : store.filePath other = .ok path) : Leaves path host.disk saving.disk := by
  cases h with
  | unasked failure why => exact .refl path _
  | stopped failure named' spares failed =>
    exact (spares.mono (by simp)).leaves (apart_other ne named' named)
  | moved result named' written done failed =>
    exact (spares_saveSteps done).leaves (apart_other ne named' named)

end Saved

end Store

end Taskboard
