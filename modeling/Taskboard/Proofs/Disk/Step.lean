import Taskboard.Proofs.Disk.Place

/-!
# What the steps of a save change

Making folders spares every file, writing a file spares all but that file, and moving a file spares all
but the two. Each of them keeps a tree a tree. Folders that are made lie on the way of the path.
-/

namespace Taskboard.Disk

variable {disk : Disk} {path : Path} {place next : Location} {name : Text} {bytes : List UInt8}

/-- Making the missing folders of a path spares everything. -/
theorem spares_ensureBelow (disk : Disk) (path : Path) (progress : Progress) (names : List Text) :
    Spares [] disk (disk.ensureBelow path progress names).disk := by
  induction names generalizing disk progress with
  | nil => exact .refl [] disk
  | cons name names ih =>
    rw [ensureBelow]
    simp only
    cases step progress.place name with
    | error failure => exact .refl [] disk
    | ok next =>
      simp only
      cases node : disk.node? next with
      | none => exact (spares_putFolder node).trans (ih _ _)
      | some stood =>
        cases stood with
        | folder => exact ih _ _
        | file bytes => exact .refl [] disk

/-- Making a folder and those above it spares everything. -/
theorem spares_ensureFolders (disk : Disk) (path : Path) : Spares [] disk (disk.ensureFolders path).disk := by
  rw [ensureFolders]
  split
  · exact .refl [] disk
  · exact spares_ensureBelow disk path _ _

/-- Where no folder was missing, or the missing ones could be made, the names lead down. -/
theorem descend_ensureBelow {progress : Progress} {names : List Text}
    (done : (disk.ensureBelow path progress names).fault = none) :
    ∃ place, (disk.ensureBelow path progress names).disk.descend progress.place names = .ok place := by
  induction names generalizing disk progress with
  | nil => exact ⟨progress.place, rfl⟩
  | cons name names ih =>
    -- A folder that stands, or is put, at the next place is still there at the end.
    have through {disk : Disk} {next : Location} {made : Bool} (moved : step progress.place name = .ok next)
        (folder : disk.hasFolder next = true)
        (done : (disk.ensureBelow path ⟨next, name :: progress.passed, made⟩ names).fault = none) :
        ∃ place, (disk.ensureBelow path ⟨next, name :: progress.passed, made⟩ names).disk.descend
          progress.place (name :: names) = .ok place := by
      obtain ⟨place, down⟩ := ih done
      have stays := (spares_ensureBelow disk path ⟨next, name :: progress.passed, made⟩ names).folders
        next folder
      refine ⟨place, ?_⟩
      rw [descend, moved]
      simp only [hasFolder_iff.mp stays]
      exact down
    rw [ensureBelow] at done ⊢
    simp only at done ⊢
    cases moved : step progress.place name with
    | error failure =>
      rw [moved] at done
      cases done
    | ok next =>
      simp only [moved] at done ⊢
      cases node : disk.node? next with
      | none =>
        simp only [node] at done ⊢
        have free : disk.hasFolder next = false := hasFolder_of_none node
        refine through moved ?_ done
        rw [hasFolder_iff, node?_put _ _ _ _ (isBase_of_not_hasFolder free), if_pos rfl]
      | some stood =>
        cases stood with
        | folder =>
          simp only [node] at done ⊢
          exact through moved (hasFolder_iff.mpr node) done
        | file bytes =>
          simp only [node] at done
          cases done

/-- Writing a file changes only that file. -/
theorem changes_write (disk : Disk) (path : Path) (bytes : List UInt8) :
    Changes [path] disk (disk.write path bytes).disk := by
  rw [write]
  split
  · exact .refl _ disk
  · next place found =>
    split
    · exact .refl _ disk
    · next free =>
      exact changes_put (Bool.eq_false_iff.mpr free) (place?_of_locate found)

/-- A file that is written stands where its path leads. -/
theorem node?_write (done : (disk.write path bytes).fault = none) :
    ∃ place, disk.locate path = .ok place ∧ disk.hasFolder place = false ∧
      (disk.write path bytes).disk = disk.put place (.file bytes) := by
  rw [write] at done ⊢
  cases found : disk.locate path with
  | error failure =>
    rw [found] at done
    cases done
  | ok place =>
    simp only [found] at done ⊢
    cases free : disk.hasFolder place with
    | true =>
      rw [free] at done
      cases done
    | false => exact ⟨place, rfl, free, rfl⟩

/-- A move that fails changes nothing; any other takes a node away and puts it where no folder is. -/
theorem rename_cases (disk : Disk) (source target : Path) :
    (disk.rename source target).fault ≠ none ∧ (disk.rename source target).disk = disk ∨
      ∃ place place' node, disk.locate source = .ok place ∧ disk.locate target = .ok place' ∧
        disk.node? place = some node ∧ disk.hasFolder place' = false ∧
          disk.rename source target = ⟨(disk.erase place).put place' node, none⟩ := by
  rw [rename]
  simp only
  cases from' : disk.locate source with
  | error failure => exact .inl ⟨Option.some_ne_none _, rfl⟩
  | ok place =>
    cases to' : disk.locate target with
    | error failure => exact .inl ⟨Option.some_ne_none _, rfl⟩
    | ok place' =>
      simp only
      cases stood : disk.node? place with
      | none => exact .inl ⟨Option.some_ne_none _, rfl⟩
      | some node =>
        simp only
        cases free : disk.hasFolder place' with
        | true => exact .inl ⟨Option.some_ne_none _, rfl⟩
        | false => exact .inr ⟨place, place', node, rfl, rfl, stood, free, rfl⟩

/-- Moving a file changes only its old and its new path, and the file is read from the new one. -/
theorem rename_changes {source : Path} (target : Path) (located : disk.locate source = .ok place)
    (file : disk.node? place = some (.file bytes)) (done : (disk.rename source target).fault = none) :
    Changes [source, target] disk (disk.rename source target).disk ∧
      (disk.rename source target).disk.read target = .ok bytes := by
  rcases rename_cases disk source target with ⟨failed, -⟩ | ⟨old, new, node, from', to', stood, free, e⟩
  · exact absurd done failed
  · cases located.symm.trans from'
    cases file.symm.trans stood
    have noFolder : disk.hasFolder place = false := hasFolder_of_file file
    have base := isBase_of_not_hasFolder free
    have changes : Changes [source, target] disk ((disk.erase place).put new (.file bytes)) := by
      have apart {other : Location} (ne : other ≠ place) (ne' : other ≠ new) :
          ((disk.erase place).put new (.file bytes)).node? other = disk.node? other := by
        rw [node?_put _ _ _ _ base, if_neg ne', node?_erase ne]
      constructor
      · intro other folder
        have ne : other ≠ place := by
          rintro rfl
          rw [noFolder] at folder
          cases folder
        have ne' : other ≠ new := by
          rintro rfl
          rw [free] at folder
          cases folder
        rw [hasFolder, apart ne ne']
        exact folder
      · intro other away
        refine apart ?_ ?_
        · exact fun e => away source List.mem_cons_self (e ▸ place?_of_locate from')
        · exact fun e => away target (by simp) (e ▸ place?_of_locate to')
    rw [e]
    exact ⟨changes, read_of_node? (changes.spares.locate to') (by rw [node?_put _ _ _ _ base, if_pos rfl])⟩

/-- Moving a file changes at most its old and its new path. -/
theorem changes_rename {source : Path} (target : Path) (located : disk.locate source = .ok place)
    (file : disk.node? place = some (.file bytes)) :
    Changes [source, target] disk (disk.rename source target).disk := by
  rcases rename_cases disk source target with ⟨-, same⟩ | ⟨old, new, node, -, -, -, -, e⟩
  · rw [same]
    exact .refl _ disk
  · exact (rename_changes target located file (by rw [e])).1

/-- A move that fails changes nothing. -/
theorem rename_failed {source target : Path} (failed : (disk.rename source target).fault ≠ none) :
    (disk.rename source target).disk = disk := by
  rcases rename_cases disk source target with ⟨-, same⟩ | ⟨old, new, node, -, -, -, -, e⟩
  · exact same
  · rw [e] at failed
    exact absurd rfl failed

/-- Whether a step is one of those that prepare a move of the file at a path: it makes folders or writes
that file. -/
def Step.prepares (beside : Path) : Step → Prop
  | .ensureFolders _ => True
  | .write path _ => path = beside
  | .rename .. => False

/-- Preparations spare all but the file that they write. -/
theorem spares_prepared (disk : Disk) {beside : Path} {steps : List Step}
    (prepares : ∀ step ∈ steps, step.prepares beside) :
    Spares [beside] disk (disk.performAll steps).disk := by
  induction steps generalizing disk with
  | nil => exact .refl _ disk
  | cons step steps ih =>
    have first : Spares [beside] disk (disk.perform step).disk := by
      have allowed := prepares step List.mem_cons_self
      cases step with
      | ensureFolders path => exact (spares_ensureFolders disk path).mono (List.nil_subset _)
      | write path bytes =>
        obtain rfl : path = beside := allowed
        exact (changes_write disk path bytes).spares
      | rename source target => exact allowed.elim
    rw [performAll]
    split
    · next middle done =>
      rw [done] at first
      exact first.trans (ih _ fun step mem => prepares step (List.mem_cons_of_mem _ mem))
    · exact first

end Taskboard.Disk
