import Taskboard.Proofs.Disk.Approach

/-!
# Disks that are alike for some files

Files of one folder have nothing to do with each other, except that whoever is the first to save one of them
makes the folder. Two disks are `Alike` for some names of a folder if the same stands under these names,
whatever else there is and whether the folder is made or not. Replacing a file under these names fails alike
on both disks and keeps them alike; replacing a file under other names keeps them alike even when it happens
on one of the disks only.
-/

namespace Taskboard.Disk

variable {disk other : Disk} {folder path : Path} {place target : Location} {names : List Text}
  {name file beside : Text} {bytes : List UInt8} {steps rest : List Step}

/-- A file is written alike on two disks on which the path leads to one place with the same at it. -/
theorem write_alike (located : disk.locate path = other.locate path)
    (same : ∀ place, disk.locate path = .ok place → disk.node? place = other.node? place)
    (bytes : List UInt8) :
    (disk.write path bytes).fault = (other.write path bytes).fault ∧
      ∀ place, disk.node? place = other.node? place →
        (disk.write path bytes).disk.node? place = (other.write path bytes).disk.node? place := by
  rw [write, write, ← located]
  cases found : disk.locate path with
  | error failure => exact ⟨rfl, fun _ h => h⟩
  | ok place =>
    have folders : other.hasFolder place = disk.hasFolder place := by
      rw [hasFolder, hasFolder, same place found]
    simp only [folders]
    cases free : disk.hasFolder place with
    | true => exact ⟨rfl, fun _ h => h⟩
    | false =>
      have base := isBase_of_not_hasFolder free
      refine ⟨rfl, fun next h => ?_⟩
      show (disk.put place _).node? next = (other.put place _).node? next
      rw [node?_put _ _ _ _ base, node?_put _ _ _ _ base, h]

/-- A file is moved alike on two disks on which both paths lead to one place each with the same at it. -/
theorem rename_alike {source : Path} (located : disk.locate source = other.locate source)
    (located' : disk.locate path = other.locate path)
    (same : ∀ place, disk.locate source = .ok place ∨ disk.locate path = .ok place →
      disk.node? place = other.node? place) :
    (disk.rename source path).fault = (other.rename source path).fault ∧
      ∀ place, disk.node? place = other.node? place →
        (disk.rename source path).disk.node? place = (other.rename source path).disk.node? place := by
  rw [rename, rename, ← located, ← located']
  cases from' : disk.locate source with
  | error failure => exact ⟨rfl, fun _ h => h⟩
  | ok place =>
    cases to' : disk.locate path with
    | error failure => exact ⟨rfl, fun _ h => h⟩
    | ok place' =>
      have folders : other.hasFolder place' = disk.hasFolder place' := by
        rw [hasFolder, hasFolder, same place' (.inr to')]
      simp only [← same place (.inl from'), folders]
      cases disk.node? place with
      | none => exact ⟨rfl, fun _ h => h⟩
      | some node =>
        cases free : disk.hasFolder place' with
        | true => exact ⟨rfl, fun _ h => h⟩
        | false =>
          have base := isBase_of_not_hasFolder free
          refine ⟨rfl, fun next h => ?_⟩
          show ((disk.erase place).put place' node).node? next =
            ((other.erase place).put place' node).node? next
          rw [node?_put _ _ _ _ base, node?_put _ _ _ _ base]
          split
          · rfl
          · by_cases here : next = place
            · subst here
              cases inside : isBase next with
              | true => rw [node?, node?, if_pos inside, if_pos inside]
              | false => rw [node?_erase_self inside, node?_erase_self inside]
            · rw [node?_erase here, node?_erase here, h]

/-- Two disks with a clear way to a folder and the same under some of its names. -/
structure Twin (folder : Path) (target : Location) (names : List Text) (disk other : Disk) : Prop where
  /-- The way is clear on the one disk. -/
  left : Clear disk folder target
  /-- And on the other. -/
  right : Clear other folder target
  /-- The same stands under the names. -/
  same : ∀ name ∈ names, disk.node? (target ++ [name]) = other.node? (target ++ [name])

/-- Results of the same steps on two disks: they fail alike, what stands under some names is still the same,
and on the first disk nothing stands under other names that did not stand there. -/
structure Paired (folder : Path) (target : Location) (names : List Text) (disk : Disk)
    (result other : Result) : Prop where
  /-- Both fail in the same way, or neither. -/
  fault : result.fault = other.fault
  /-- The same stands under the names. -/
  twin : Twin folder target names result.disk other.disk
  /-- Other names keep what stands there. -/
  others : ∀ name, name ∉ names →
    result.disk.node? (target ++ [name]) = disk.node? (target ++ [name])

namespace Twin

/-- Making folders on the way. -/
theorem ensureFront (h : Twin folder target names disk other) (count : Nat) :
    Paired folder target names disk (disk.ensureFolders (front folder count))
      (other.ensureFolders (front folder count)) := by
  have left := h.left.spares (spares_ensureFolders disk (front folder count)) (h.left.tree.ensureFolders _)
  have right := h.right.spares (spares_ensureFolders other (front folder count)) (h.right.tree.ensureFolders _)
  refine ⟨?_, ⟨left, right, fun name mem => ?_⟩, fun name _ => ?_⟩
  · rw [h.left.fault_ensureFront, h.right.fault_ensureFront]
  · rw [h.left.direct.node?_ensureFront h.left.here, h.right.direct.node?_ensureFront h.right.here]
    exact h.same name mem
  · exact h.left.direct.node?_ensureFront h.left.here count name

/-- Making the folder. -/
theorem ensureFolders (h : Twin folder target names disk other) :
    Paired folder target names disk (disk.ensureFolders folder) (other.ensureFolders folder) := by
  have whole := h.ensureFront folder.names.length
  rwa [front_length] at whole

/-- What stands at the place of a path to one of the names is the same. -/
theorem node?_of_locate (h : Twin folder target names disk other) (mem : name ∈ names) (plain : name ≠ "..")
    (found : disk.locate (folder.child name) = .ok place) : disk.node? place = other.node? place := by
  rw [place_of_child h.left.here plain (place?_of_locate found)]
  exact h.same name mem

end Twin

/-- Two such disks on which the folder is made. -/
structure Ready (folder : Path) (target : Location) (names : List Text) (disk other : Disk) : Prop
    extends Twin folder target names disk other where
  /-- The folder is made on the one disk. -/
  made : disk.hasFolder target = true
  /-- And on the other. -/
  made' : other.hasFolder target = true

/-- Where the folder could be made, it is. -/
theorem Twin.ready (h : Twin folder target names disk other)
    (done : (disk.ensureFolders folder).fault = none) (done' : (other.ensureFolders folder).fault = none) :
    Ready folder target names (disk.ensureFolders folder).disk (other.ensureFolders folder).disk :=
  ⟨h.ensureFolders.twin, hasFolder_of_ensured h.left.here done, hasFolder_of_ensured h.right.here done'⟩

namespace Ready

/-- A path to a file of the folder leads to the same place. -/
theorem locate_child (h : Ready folder target names disk other) :
    disk.locate (folder.child name) = other.locate (folder.child name) := by
  rw [h.left.locate_child h.made, h.right.locate_child h.made']

/-- Writing a file of the folder. -/
theorem write (h : Ready folder target names disk other) (plain : ∀ name ∈ names, name ≠ "..")
    (mem : name ∈ names) (bytes : List UInt8) :
    Paired folder target names disk (disk.write (folder.child name) bytes)
      (other.write (folder.child name) bytes) := by
  obtain ⟨fault, same⟩ := write_alike h.locate_child
    (fun place found => h.node?_of_locate mem (plain name mem) found) bytes
  have changes (disk : Disk) :
      Changes (names.map folder.child) disk (disk.write (folder.child name) bytes).disk :=
    (changes_write disk _ bytes).mono fun path here => by
      rw [List.mem_singleton.mp here]
      exact List.mem_map_of_mem mem
  obtain ⟨left, others⟩ := h.left.changes plain (changes disk) (h.left.tree.write _ bytes)
  obtain ⟨right, -⟩ := h.right.changes plain (changes other) (h.right.tree.write _ bytes)
  exact ⟨fault, ⟨left, right, fun name mem => same _ (h.same name mem)⟩, others⟩

/-- The folder is still there after a file of it was written. -/
theorem written (h : Ready folder target names disk other) (plain : ∀ name ∈ names, name ≠ "..")
    (mem : name ∈ names) (bytes : List UInt8) :
    Ready folder target names (disk.write (folder.child name) bytes).disk
      (other.write (folder.child name) bytes).disk :=
  ⟨(h.write plain mem bytes).twin, (changes_write disk _ bytes).folders _ h.made,
    (changes_write other _ bytes).folders _ h.made'⟩

/-- Moving a file of the folder. -/
theorem rename (h : Ready folder target names disk other) (plain : ∀ name ∈ names, name ≠ "..")
    (mem : beside ∈ names) (mem' : file ∈ names) (found : disk.locate (folder.child beside) = .ok place)
    (standing : disk.node? place = some (.file bytes)) :
    Paired folder target names disk (disk.rename (folder.child beside) (folder.child file))
      (other.rename (folder.child beside) (folder.child file)) := by
  have found' := h.locate_child.symm.trans found
  have standing' := (h.node?_of_locate mem (plain beside mem) found).symm.trans standing
  obtain ⟨fault, same⟩ := rename_alike h.locate_child h.locate_child
    fun place either => either.elim (h.node?_of_locate mem (plain beside mem))
      (h.node?_of_locate mem' (plain file mem'))
  have sub : [folder.child beside, folder.child file] ⊆ names.map folder.child := by
    intro path here
    rcases List.mem_cons.mp here with rfl | here
    · exact List.mem_map_of_mem mem
    · rw [List.mem_singleton.mp here]
      exact List.mem_map_of_mem mem'
  obtain ⟨left, others⟩ := h.left.changes plain ((changes_rename _ found standing).mono sub)
    (h.left.tree.rename _ found standing)
  obtain ⟨right, -⟩ := h.right.changes plain ((changes_rename _ found' standing').mono sub)
    (h.right.tree.rename _ found' standing')
  exact ⟨fault, ⟨left, right, fun name mem => same _ (h.same name mem)⟩, others⟩

/-- Moving a file of the folder that was just written. -/
theorem rename_written (h : Ready folder target names disk other) (plain : ∀ name ∈ names, name ≠ "..")
    (mem : beside ∈ names) (mem' : file ∈ names)
    (wrote : (disk.write (folder.child beside) bytes).fault = none) :
    Paired folder target names (disk.write (folder.child beside) bytes).disk
      ((disk.write (folder.child beside) bytes).disk.rename (folder.child beside) (folder.child file))
      ((other.write (folder.child beside) bytes).disk.rename (folder.child beside) (folder.child file)) := by
  obtain ⟨place, found, free, put⟩ := node?_write wrote
  have located := (changes_write disk (folder.child beside) bytes).spares.locate found
  have standing : (disk.write (folder.child beside) bytes).disk.node? place = some (.file bytes) := by
    rw [put, node?_put _ _ _ _ (isBase_of_not_hasFolder free), if_pos rfl]
  exact (h.written plain mem bytes).rename plain mem mem' located standing

end Ready

/-- A step on both disks and then the others, where it did not fail. -/
theorem Paired.cons {step : Step}
    (first : Paired folder target names disk (disk.perform step) (other.perform step))
    (further : (disk.perform step).fault = none → (other.perform step).fault = none →
      Paired folder target names (disk.perform step).disk ((disk.perform step).disk.performAll rest)
        ((other.perform step).disk.performAll rest)) :
    Paired folder target names disk (disk.performAll (step :: rest)) (other.performAll (step :: rest)) := by
  rw [performAll, performAll]
  generalize disk.perform step = result at first further
  generalize other.perform step = result' at first further
  obtain ⟨middle, fault⟩ := result
  obtain ⟨middle', fault'⟩ := result'
  obtain rfl : fault = fault' := first.fault
  cases fault with
  | some fault => exact first
  | none =>
    have then' := further rfl rfl
    exact ⟨then'.fault, then'.twin, fun name away => (then'.others name away).trans (first.others name away)⟩

/-- What may be carried out of replacing a file of a folder by way of a file beside it. -/
inductive Replacing (folder : Path) (file beside : Text) : List Step → Prop where
  /-- Nothing. -/
  | nothing : Replacing folder file beside []
  /-- Folders on the way are made. -/
  | begun (count : Nat) : Replacing folder file beside [.ensureFolders (front folder count)]
  /-- The folder is made and the file beside is written. -/
  | written (bytes : List UInt8) :
      Replacing folder file beside [.ensureFolders folder, .write (folder.child beside) bytes]
  /-- All of it is done. -/
  | moved (bytes : List UInt8) :
      Replacing folder file beside [.ensureFolders folder, .write (folder.child beside) bytes,
        .rename (folder.child beside) (folder.child file)]

/-- Replacing a file fails alike on two disks with the same under its two names, which is then still so, and
leaves other names alone. -/
theorem Twin.replacing (h : Twin folder target [file, beside] disk other) (plain : file ≠ "..")
    (plain' : beside ≠ "..") (replaces : Replacing folder file beside steps) :
    Paired folder target [file, beside] disk (disk.performAll steps) (other.performAll steps) := by
  have plains : ∀ name ∈ [file, beside], name ≠ ".." := by
    simpa only [List.forall_mem_cons, List.not_mem_nil, false_implies, implies_true, and_true] using
      ⟨plain, plain'⟩
  have mem : file ∈ [file, beside] := by simp
  have mem' : beside ∈ [file, beside] := by simp
  have stop {disk other : Disk} (h : Twin folder target [file, beside] disk other) :
      Paired folder target [file, beside] disk (disk.performAll []) (other.performAll []) :=
    ⟨rfl, h, fun _ _ => rfl⟩
  cases replaces with
  | nothing => exact stop h
  | begun count =>
    have made : Paired folder target [file, beside] disk
        (disk.perform (.ensureFolders (front folder count)))
        (other.perform (.ensureFolders (front folder count))) := h.ensureFront count
    exact made.cons fun _ _ => stop made.twin
  | written bytes =>
    refine .cons h.ensureFolders fun done done' => ?_
    have ready := h.ready done done'
    exact .cons (ready.write plains mem' bytes) fun _ _ => stop (ready.written plains mem' bytes).toTwin
  | moved bytes =>
    refine .cons h.ensureFolders fun done done' => ?_
    have ready := h.ready done done'
    refine .cons (ready.write plains mem' bytes) fun wrote _ => ?_
    have moved := ready.rename_written plains mem' mem wrote
    exact .cons moved fun _ _ => stop moved.twin

/-- Where the way is shut, nothing comes of replacing a file. -/
theorem Shut.replacing (h : Shut disk folder) (replaces : Replacing folder file beside steps) :
    (disk.performAll steps).disk = disk := by
  have stops (rest : List Step) :
      (disk.performAll (.ensureFolders folder :: rest)).disk = disk := by
    have fault := h.fault
    have still := h.still folder.names.length
    rw [front_length] at still
    rw [performAll, perform]
    cases made : disk.ensureFolders folder with
    | mk middle failed =>
      rw [made] at fault still
      cases failed with
      | none => exact absurd rfl fault
      | some failure => exact still
  cases replaces with
  | nothing => rfl
  | begun count =>
    have still := h.still count
    simp only [performAll, perform]
    split
    · next middle made =>
      rw [made] at still
      exact still
    · exact still
  | written bytes => exact stops _
  | moved bytes => exact stops _

/-- Two disks that are the same to whoever uses only some names of a folder: the way is clear on both and the
same stands under the names, or the way is shut and the disks are one. -/
inductive Alike (folder : Path) (target : Location) (names : List Text) (disk other : Disk) : Prop where
  /-- The way is clear. -/
  | clear (twin : Twin folder target names disk other)
  /-- The way is shut. -/
  | shut (shut : disk.Shut folder) (same : other = disk)

/-- A disk on which the way is straight is like itself. -/
theorem Straight.alike (straight : disk.Straight (basePlace folder.root) folder.names)
    (tree : disk.IsTree) : ∃ target, ∀ names, Alike folder target names disk disk := by
  rcases straight.clear_or_shut tree with ⟨target, clear⟩ | shut
  · exact ⟨target, fun names => .clear ⟨clear, clear, fun _ _ => rfl⟩⟩
  · exact ⟨[], fun names => .shut shut rfl⟩

namespace Alike

/-- A file of the folder is read alike. -/
theorem read_child (h : Alike folder target names disk other) (mem : name ∈ names) (plain : name ≠ "..")
    (short : Utf8.size name ≤ longestName) :
    disk.read (folder.child name) = other.read (folder.child name) := by
  cases h with
  | clear twin =>
    rw [twin.left.read_child plain short, twin.right.read_child plain short, twin.same name mem]
  | shut shut same => rw [same]

/-- A file of the folder holds the same bytes. -/
theorem contents_child (h : Alike folder target names disk other) (mem : name ∈ names)
    (plain : name ≠ "..") : disk.contents (folder.child name) = other.contents (folder.child name) := by
  cases h with
  | clear twin =>
    rw [contents, contents]
    cases at' : place? (folder.child name) with
    | none => rfl
    | some place =>
      rw [place_of_child twin.left.here plain at', Option.bind_some, Option.bind_some, twin.same name mem]
  | shut shut same => rw [same]

/-- Replacing a file fails alike on disks that are alike for its two names, and leaves them so. -/
theorem replacing (h : Alike folder target [file, beside] disk other) (plain : file ≠ "..")
    (plain' : beside ≠ "..") (replaces : Replacing folder file beside steps) :
    (disk.performAll steps).fault = (other.performAll steps).fault ∧
      Alike folder target [file, beside] (disk.performAll steps).disk (other.performAll steps).disk := by
  cases h with
  | clear twin =>
    have paired := twin.replacing plain plain' replaces
    exact ⟨paired.fault, .clear paired.twin⟩
  | shut shut same =>
    subst same
    refine ⟨rfl, ?_⟩
    rw [shut.replacing replaces]
    exact .shut shut rfl

/-- Replacing a file on one of two disks leaves them alike for other names. -/
theorem aside (h : Alike folder target names disk other) (plain : file ≠ "..") (plain' : beside ≠ "..")
    (away : ∀ name ∈ names, name ∉ [file, beside]) (replaces : Replacing folder file beside steps) :
    Alike folder target names (disk.performAll steps).disk other := by
  cases h with
  | clear twin =>
    have own : Twin folder target [file, beside] disk disk := ⟨twin.left, twin.left, fun _ _ => rfl⟩
    have paired := own.replacing plain plain' replaces
    exact .clear ⟨paired.twin.left, twin.right, fun name mem =>
      (paired.others name (away name mem)).trans (twin.same name mem)⟩
  | shut shut same =>
    rw [shut.replacing replaces]
    exact .shut shut same

end Alike

end Taskboard.Disk
