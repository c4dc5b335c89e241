import Taskboard.Disk.Basic

/-!
# Places and what stands at them

A path that can be followed leads to a place that its names alone determine. So two disks on which a path
can be followed agree about its place, and what happens to the file of a path is told by the nodes. A
change of a disk `Changes` only the files at some paths if everything else stays, and `Spares` all but them
if new folders may appear, too; it `Leaves` a path alone if the file there keeps its bytes and stays within
reach.
-/

namespace Taskboard

/-- Bytes of a file. -/
def Node.bytes? : Node → Option (List UInt8)
  | .file bytes => some bytes
  | .folder => none

namespace Disk

/-- The place to which names lead from another one, whatever stands on the way. -/
def follow : Location → List Text → Except DiskFailure Location
  | place, [] => .ok place
  | place, name :: rest =>
    match step place name with
    | .error failure => .error failure
    | .ok next => follow next rest

/-- The place of a path, whatever stands on the way; none if a name is too long. -/
def place? (path : Path) : Option Location :=
  (follow (basePlace path.root) path.names).toOption

/-- Bytes of the file at the place of a path, if there is one. -/
def contents (disk : Disk) (path : Path) : Option (List UInt8) :=
  (place? path).bind fun place => (disk.node? place).bind Node.bytes?

variable {disk before after : Disk} {path : Path} {place next : Location} {names rest : List Text}
  {name : Text} {bytes : List UInt8}

/-- Following names one after the other. -/
theorem follow_append :
    follow place (names ++ rest) = (follow place names).bind fun next => follow next rest := by
  induction names generalizing place with
  | nil => rfl
  | cons name names ih =>
    rw [List.cons_append, follow, follow]
    cases step place name with
    | error failure => rfl
    | ok next => exact ih

/-- Going down does not lead anywhere else than the names do. -/
theorem follow_of_descend (h : disk.descend place names = .ok next) : follow place names = .ok next := by
  induction names generalizing place with
  | nil => exact h
  | cons name names ih =>
    rw [descend] at h
    rw [follow]
    cases moved : step place name with
    | error failure =>
      rw [moved] at h
      cases h
    | ok middle =>
      rw [moved] at h
      simp only at h
      split at h
      · cases h
      · cases h
      · exact ih h

/-- The place of a path is where its names lead. -/
theorem follow_of_place? (h : place? path = some place) :
    follow (basePlace path.root) path.names = .ok place := by
  rw [place?] at h
  cases whole : follow (basePlace path.root) path.names with
  | error failure =>
    rw [whole] at h
    cases h
  | ok last =>
    rw [whole] at h
    cases h
    rfl

/-- A path one name longer leads one step further. -/
theorem place?_child :
    place? (path.child name) =
      (place? path).bind fun folder => (step folder name).toOption := by
  rw [place?, place?, Path.child, follow_append]
  cases follow (basePlace path.root) path.names with
  | error failure => rfl
  | ok folder =>
    show (follow folder [name]).toOption = (step folder name).toOption
    rw [follow]
    cases step folder name <;> rfl

/-- A path one name longer is followed through the folder. -/
theorem locate_child :
    disk.locate (path.child name) =
      match refusal? (path.child name) with
      | some failure => .error failure
      | none => (disk.descend (basePlace path.root) path.names).bind fun folder => step folder name := by
  have last : (path.child name).names.getLast? = some name := by simp [Path.child]
  have first : (path.child name).names.dropLast = path.names := by simp [Path.child]
  have root : (path.child name).root = path.root := rfl
  rw [locate]
  cases refusal? (path.child name) with
  | some failure => rfl
  | none =>
    simp only [last, first, root]
    cases disk.descend (basePlace path.root) path.names <;> rfl

/-- A place that is found is the place of the path. -/
theorem place?_of_locate (h : disk.locate path = .ok place) : place? path = some place := by
  rw [locate] at h
  split at h
  · cases h
  split at h
  · next none =>
    rw [List.getLast?_eq_none_iff] at none
    rw [place?, none]
    cases h
    rfl
  · next name last =>
    split at h
    · cases h
    · next folder down =>
      obtain ⟨first, names⟩ := List.getLast?_eq_some_iff.mp last
      rw [names, List.dropLast_concat] at down
      rw [place?, names, follow_append, follow_of_descend down]
      show (follow folder [name]).toOption = some place
      rw [follow, h]
      rfl

/-- The place of a name in a folder; two dots have none. -/
theorem step_of_ne (ne : name ≠ "..") (h : step place name = .ok next) : next = place ++ [name] := by
  rw [step, if_neg ne] at h
  split at h
  · cases h
  · cases h
    rfl

/-- A name in a folder has its place there. -/
theorem place_of_child (here : place? path = some next) (plain : name ≠ "..")
    (h : place? (path.child name) = some place) : place = next ++ [name] := by
  rw [place?_child, here, Option.bind_some] at h
  cases moved : step next name with
  | error failure =>
    rw [moved] at h
    cases h
  | ok middle =>
    rw [moved] at h
    cases h
    exact step_of_ne plain moved

/-- Different names in a folder have different places. -/
theorem name_of_place? {other : Text} (ne : name ≠ "..") (ne' : other ≠ "..")
    (h : place? (path.child name) = some place) (h' : place? (path.child other) = some place) :
    name = other := by
  rw [place?_child] at h h'
  cases folder : place? path with
  | none =>
    rw [folder] at h
    cases h
  | some folder' =>
    rw [folder, Option.bind_some] at h h'
    cases first : step folder' name with
    | error failure =>
      rw [first] at h
      cases h
    | ok one =>
      cases second : step folder' other with
      | error failure =>
        rw [second] at h'
        cases h'
      | ok two =>
        rw [first] at h
        rw [second] at h'
        have same : folder' ++ [name] = folder' ++ [other] := by
          rw [← step_of_ne ne first, ← step_of_ne ne' second]
          cases h
          cases h'
          rfl
        simpa using same

/-- What is read from a path is what stands at its place. -/
theorem contents_of_read (h : disk.read path = .ok bytes) : disk.contents path = some bytes := by
  rw [read] at h
  split at h
  · cases h
  · next place found =>
    split at h
    · cases h
    · cases h
    · next node =>
      cases h
      rw [contents, place?_of_locate found, Option.bind_some, node]
      rfl

/-- A file at the place of a path that can be followed is read. -/
theorem read_of_node? (found : disk.locate path = .ok place) (node : disk.node? place = some (.file bytes)) :
    disk.read path = .ok bytes := by
  rw [read, found]
  simp only [node]

/-- A folder stands at a place. -/
theorem hasFolder_iff : disk.hasFolder place = true ↔ disk.node? place = some .folder :=
  decide_eq_true_iff

/-- No folder stands where nothing stands. -/
theorem hasFolder_of_none (h : disk.node? place = none) : disk.hasFolder place = false := by
  rw [hasFolder, h]
  rfl

/-- No folder stands where a file stands. -/
theorem hasFolder_of_file (h : disk.node? place = some (.file bytes)) :
    disk.hasFolder place = false := by
  rw [hasFolder, h]
  rfl

/-- A place without a folder lies inside the working folder. -/
theorem isBase_of_not_hasFolder (h : disk.hasFolder place = false) : isBase place = false := by
  rw [← Bool.not_eq_true]
  intro base
  simp [hasFolder, node?, base] at h

/-- Taking away one node leaves the others. -/
theorem node?_erase {other : Location} (ne : other ≠ place) :
    (disk.erase place).node? other = disk.node? other := by
  rw [node?, node?, erase, entryAt_filter place other ne]

/-- Nothing but the files at some paths is changed. -/
structure Changes (paths : List Path) (before after : Disk) : Prop where
  /-- Folders stay. -/
  folders : ∀ place, before.hasFolder place = true → after.hasFolder place = true
  /-- Away from the paths, nothing changes. -/
  others : ∀ place, (∀ path ∈ paths, place? path ≠ some place) → after.node? place = before.node? place

/-- Nothing but the files at some paths is changed, and folders are made. -/
structure Spares (paths : List Path) (before after : Disk) : Prop where
  /-- Folders stay. -/
  folders : ∀ place, before.hasFolder place = true → after.hasFolder place = true
  /-- Away from the paths, only a folder may come to stand where nothing stood. -/
  others : ∀ place, (∀ path ∈ paths, place? path ≠ some place) →
    after.node? place = before.node? place ∨
      before.node? place = none ∧ after.node? place = some .folder

/-- Whether a path leads to another place than each of some paths. -/
def Apart (path : Path) (paths : List Path) : Prop :=
  ∀ place, place? path = some place → ∀ other ∈ paths, place? other ≠ some place

/-- The file at a path keeps its bytes and stays within reach. -/
structure Leaves (path : Path) (before after : Disk) : Prop where
  /-- The bytes stay. -/
  contents : after.contents path = before.contents path
  /-- What could be read still can. -/
  readable : ∀ bytes, before.read path = .ok bytes → after.read path = .ok bytes

/-- A disk that does not change leaves everything. -/
theorem Leaves.refl (path : Path) (disk : Disk) : Leaves path disk disk := ⟨rfl, fun _ h => h⟩

/-- Two changes that leave a path, one after the other. -/
theorem Leaves.trans {middle : Disk} (first : Leaves path before middle)
    (second : Leaves path middle after) : Leaves path before after :=
  ⟨second.contents.trans first.contents, fun bytes h => second.readable bytes (first.readable bytes h)⟩

namespace Spares

variable {paths : List Path}

/-- A disk that does not change is spared. -/
theorem refl (paths : List Path) (disk : Disk) : Spares paths disk disk :=
  ⟨fun _ h => h, fun _ _ => .inl rfl⟩

/-- Two changes, one after the other. -/
theorem trans {middle : Disk} (first : Spares paths before middle) (second : Spares paths middle after) :
    Spares paths before after := by
  refine ⟨fun place h => second.folders place (first.folders place h), fun place away => ?_⟩
  rcases first.others place away with same | ⟨none, folder⟩
  · rcases second.others place away with same' | ⟨none', folder'⟩
    · exact .inl (same'.trans same)
    · exact .inr ⟨same.symm.trans none', folder'⟩
  · right
    exact ⟨none, hasFolder_iff.mp (second.folders place (hasFolder_iff.mpr folder))⟩

/-- What spares all but some paths spares all but more of them. -/
theorem mono {more : List Path} (h : Spares paths before after) (sub : paths ⊆ more) :
    Spares more before after :=
  ⟨h.folders, fun place away => h.others place fun path mem => away path (sub mem)⟩

/-- A way through folders stays. -/
theorem descend (h : Spares paths before after) (down : before.descend place names = .ok next) :
    after.descend place names = .ok next := by
  induction names generalizing place with
  | nil => exact down
  | cons name names ih =>
    rw [Disk.descend] at down ⊢
    cases moved : step place name with
    | error failure =>
      rw [moved] at down
      cases down
    | ok middle =>
      rw [moved] at down
      simp only at down ⊢
      split at down
      · cases down
      · cases down
      · next folder =>
        rw [hasFolder_iff.mp (h.folders middle (hasFolder_iff.mpr folder))]
        exact ih down

/-- A path that could be followed still can. -/
theorem locate (h : Spares paths before after) (found : before.locate path = .ok place) :
    after.locate path = .ok place := by
  rw [Disk.locate] at found ⊢
  split at found
  · cases found
  · split at found
    · exact found
    · split at found
      · cases found
      · next folder down =>
        simp only [h.descend down]
        exact found

/-- Away from the changed paths a file keeps its bytes. -/
theorem file (h : Spares paths before after) (away : ∀ path ∈ paths, place? path ≠ some place) :
    (after.node? place).bind Node.bytes? = (before.node? place).bind Node.bytes? := by
  rcases h.others place away with same | ⟨none, folder⟩
  · rw [same]
  · rw [none, folder]
    rfl

/-- A path apart from the changed ones is left alone. -/
theorem leaves (h : Spares paths before after) (apart : Apart path paths) :
    Leaves path before after := by
  constructor
  · rw [contents, contents]
    cases at' : place? path with
    | none => rfl
    | some place =>
      rw [Option.bind_some, Option.bind_some, h.file (apart place at')]
  · intro bytes readable
    rw [read] at readable
    split at readable
    · cases readable
    · next place found =>
      split at readable
      · cases readable
      · cases readable
      · next node =>
        cases readable
        refine read_of_node? (h.locate found) ?_
        rcases h.others place (apart place (place?_of_locate found)) with same | ⟨none, _⟩
        · rw [same, node]
        · rw [none] at node
          cases node

end Spares

namespace Changes

variable {paths : List Path}

/-- A disk that does not change. -/
theorem refl (paths : List Path) (disk : Disk) : Changes paths disk disk :=
  ⟨fun _ h => h, fun _ _ => rfl⟩

/-- Two changes, one after the other. -/
theorem trans {middle : Disk} (first : Changes paths before middle) (second : Changes paths middle after) :
    Changes paths before after :=
  ⟨fun place h => second.folders place (first.folders place h),
    fun place away => (second.others place away).trans (first.others place away)⟩

/-- What changes only the files at some paths changes only those at more of them. -/
theorem mono {more : List Path} (h : Changes paths before after) (sub : paths ⊆ more) :
    Changes more before after :=
  ⟨h.folders, fun place away => h.others place fun path mem => away path (sub mem)⟩

/-- What changes only the files at some paths spares all but them. -/
theorem spares (h : Changes paths before after) : Spares paths before after :=
  ⟨h.folders, fun place away => .inl (h.others place away)⟩

end Changes

/-- A node that is put where no folder stands, at the place of a path, changes only that path. -/
theorem changes_put {node : Node} (free : disk.hasFolder place = false)
    (here : place? path = some place) : Changes [path] disk (disk.put place node) := by
  have base := isBase_of_not_hasFolder free
  constructor
  · intro other folder
    have ne : other ≠ place := by
      rintro rfl
      rw [free] at folder
      cases folder
    rw [hasFolder, node?_put _ _ _ _ base, if_neg ne]
    exact folder
  · intro other away
    have ne : other ≠ place := fun e => away path List.mem_cons_self (e ▸ here)
    rw [node?_put _ _ _ _ base, if_neg ne]

/-- A folder that is made where nothing stood spares everything. -/
theorem spares_putFolder (none : disk.node? place = none) : Spares [] disk (disk.put place .folder) := by
  have base : isBase place = false :=
    isBase_of_not_hasFolder (hasFolder_of_none none)
  constructor
  · intro other folder
    rw [hasFolder_iff, node?_put _ _ _ _ base]
    split
    · rfl
    · exact hasFolder_iff.mp folder
  · intro other _
    rw [node?_put _ _ _ _ base]
    split
    · next e => exact .inr ⟨e ▸ none, rfl⟩
    · exact .inl rfl

end Disk

end Taskboard
