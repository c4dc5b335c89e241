import Taskboard.Proofs.Disk.Tree

/-!
# The way to a folder

A path to a folder is straight if nothing after its first missing folder leads up again or is too long a name.
On a tree, there are then two cases. Either no folder can ever be made on the way, since a file or too long
a name comes before any missing one. Or the way is clear: folders can be made unless the path is refused, and
whether they are made makes no difference to what is read from the files of the folder, since nothing stands in
a folder that is missing.
-/

namespace Taskboard.Disk

variable {disk before after : Disk} {folder path : Path} {place next target : Location}
  {names : List Text} {name : Text}

/-- Whether names lead straight on from a place: they may lead through folders and up again, but after a
folder that is missing only down. -/
def Straight (disk : Disk) : Location → List Text → Prop
  | _, [] => True
  | place, name :: rest =>
    match step place name with
    | .error _ => True
    | .ok next =>
      match disk.node? next with
      | some .folder => disk.Straight next rest
      | some (.file _) => True
      | none => ∀ name ∈ rest, name ≠ ".." ∧ Utf8.size name ≤ longestName

/-- Names that are short enough and are not the two dots lead down one after the other. -/
theorem follow_of_plain (plain : ∀ name ∈ names, name ≠ ".." ∧ Utf8.size name ≤ longestName) :
    follow place names = .ok (place ++ names) := by
  induction names generalizing place with
  | nil => rw [follow, List.append_nil]
  | cons name names ih =>
    obtain ⟨ne, short⟩ := plain name List.mem_cons_self
    rw [follow, step, if_neg ne, if_neg (Nat.not_lt.mpr short)]
    simp only
    rw [ih fun other mem => plain other (List.mem_cons_of_mem _ mem), List.append_assoc]
    rfl

/-- Such names are straight on every disk. -/
theorem straight_of_plain (plain : ∀ name ∈ names, name ≠ ".." ∧ Utf8.size name ≤ longestName) :
    disk.Straight place names := by
  induction names generalizing place with
  | nil => trivial
  | cons name names ih =>
    have rest : ∀ name ∈ names, name ≠ ".." ∧ Utf8.size name ≤ longestName :=
      fun other mem => plain other (List.mem_cons_of_mem _ mem)
    rw [Straight]
    split
    · trivial
    · split
      · exact ih rest
      · trivial
      · exact rest

/-- Where names lead somewhere and no file stands on the way, the missing folders can be made. -/
theorem ensureBelow_done {progress : Progress} (along : follow progress.place names = .ok target)
    (free : ∀ count place bytes, follow progress.place (names.take count) = .ok place →
      disk.node? place ≠ some (.file bytes)) :
    (disk.ensureBelow path progress names).fault = none := by
  induction names generalizing disk progress with
  | nil => rfl
  | cons name names ih =>
    rw [follow] at along
    rw [ensureBelow]
    simp only
    cases moved : step progress.place name with
    | error failure =>
      rw [moved] at along
      cases along
    | ok next =>
      rw [moved] at along
      simp only
      have further (count : Nat) (place : Location) (bytes : List UInt8)
          (h : follow next (names.take count) = .ok place) : disk.node? place ≠ some (.file bytes) := by
        refine free (count + 1) place bytes ?_
        rw [List.take_succ_cons, follow, moved]
        exact h
      cases node : disk.node? next with
      | none =>
        have base := isBase_of_not_hasFolder (hasFolder_of_none node)
        refine ih along fun count place bytes h => ?_
        rw [node?_put _ _ _ _ base]
        split
        · intro same
          cases same
        · exact further count place bytes h
      | some stood =>
        cases stood with
        | folder => exact ih along further
        | file bytes => exact absurd node (further 0 next bytes rfl)

/-- After its folders were made, a path leads to a folder. -/
theorem hasFolder_of_ensured (here : place? folder = some target)
    (done : (disk.ensureFolders folder).fault = none) :
    (disk.ensureFolders folder).disk.hasFolder target = true := by
  rw [ensureFolders] at done ⊢
  cases refused : refusal? folder with
  | some failure =>
    rw [refused] at done
    cases done
  | none =>
    simp only [refused] at done ⊢
    obtain ⟨place, down⟩ := descend_ensureBelow done
    obtain rfl : place = target :=
      Except.ok.inj ((follow_of_descend down).symm.trans (follow_of_place? here))
    exact hasFolder_of_descend (hasFolder_basePlace _ folder.root) down

/-- On a tree, nothing stands below a place where nothing stands. -/
theorem IsTree.nothing_below (tree : disk.IsTree) (missing : disk.node? place = none)
    (names : List Text) : disk.node? (place ++ names) = none := by
  rcases List.eq_nil_or_concat names with rfl | ⟨first, last, rfl⟩
  · rw [List.append_nil, missing]
  · rw [List.concat_eq_append, ← List.append_assoc]
    cases stands : disk.node? (place ++ first ++ [last]) with
    | none => rfl
    | some node =>
      have folder := tree.hasFolder_of_prefix (tree _ _ _ stands) (List.prefix_append place first)
      rw [hasFolder_iff, missing] at folder
      cases folder

/-- Whether no folder can be made on the way of a path, although the folder is not there. -/
structure Shut (disk : Disk) (folder : Path) : Prop where
  /-- Trying to make folders changes nothing. -/
  still : ∀ count, (disk.ensureFolders (front folder count)).disk = disk
  /-- The folder is not there in the end. -/
  fault : (disk.ensureFolders folder).fault ≠ none

/-- A clear way to a folder of a tree: it is reached straight away, and no file stands on the way. -/
structure Clear (disk : Disk) (folder : Path) (target : Location) : Prop where
  /-- Everything on the disk stands in a folder. -/
  tree : disk.IsTree
  /-- The folder is reached straight away. -/
  direct : disk.Direct folder
  /-- The place of the folder. -/
  here : place? folder = some target
  /-- No file stands on the way. -/
  free : ∀ count place bytes, follow (basePlace folder.root) (folder.names.take count) = .ok place →
    disk.node? place ≠ some (.file bytes)

/-- Names lead from a place to another one along folders and then along missing ones. -/
structure Leads (disk : Disk) (place : Location) (names : List Text) (target : Location) : Prop where
  /-- Where they lead. -/
  along : follow place names = .ok target
  /-- A place on the way is a folder, or is missing and lies above the end. -/
  stands : ∀ count next, follow place (names.take count) = .ok next →
    disk.hasFolder next = true ∨ next <+: target ∧ disk.node? next = none

/-- From a place no folder can be made along names, although they lead to none. -/
def Stuck (disk : Disk) (place : Location) (names : List Text) : Prop :=
  ∀ path passed made,
    (∀ count, (disk.ensureBelow path ⟨place, passed, made⟩ (names.take count)).disk = disk) ∧
    (disk.ensureBelow path ⟨place, passed, made⟩ names).fault ≠ none

/-- One more name in front, from a folder. -/
theorem Leads.cons (h : disk.Leads next names target) (folder : disk.hasFolder place = true)
    (moved : step place name = .ok next) : disk.Leads place (name :: names) target := by
  refine ⟨by rw [follow, moved]; exact h.along, fun count middle along => ?_⟩
  cases count with
  | zero =>
    cases along
    exact .inl folder
  | succ count =>
    rw [List.take_succ_cons, follow, moved] at along
    exact h.stands count middle along

/-- Names lead all the way from a missing place of a tree. -/
theorem IsTree.leads_of_missing (tree : disk.IsTree) (missing : disk.node? place = none)
    (plain : ∀ name ∈ names, name ≠ ".." ∧ Utf8.size name ≤ longestName) :
    disk.Leads place names (place ++ names) := by
  refine ⟨follow_of_plain plain, fun count next along => .inr ?_⟩
  have part : ∀ name ∈ names.take count, name ≠ ".." ∧ Utf8.size name ≤ longestName :=
    fun name mem => plain name (List.mem_of_mem_take mem)
  cases along.symm.trans (follow_of_plain part)
  exact ⟨(List.prefix_append_right_inj place).mpr (List.take_prefix count names), tree.nothing_below missing _⟩

/-- One more name in front after which nothing is made. -/
theorem stuck_cons (stops : ∀ path passed made,
    (∀ count, (disk.ensureBelow path ⟨place, passed, made⟩ (name :: names.take count)).disk = disk) ∧
    (disk.ensureBelow path ⟨place, passed, made⟩ (name :: names)).fault ≠ none) :
    disk.Stuck place (name :: names) := by
  intro path passed made
  refine ⟨fun count => ?_, (stops path passed made).2⟩
  cases count with
  | zero => rfl
  | succ count => exact (stops path passed made).1 count

/-- Straight names lead all the way, or no folder can be made along them. -/
theorem Straight.leads_or_stuck (straight : disk.Straight place names) (tree : disk.IsTree)
    (folder : disk.hasFolder place = true) :
    (∃ target, disk.Leads place names target) ∨ disk.Stuck place names := by
  induction names generalizing place with
  | nil =>
    refine .inl ⟨place, rfl, fun count next along => ?_⟩
    rw [List.take_nil] at along
    cases along
    exact .inl folder
  | cons name names ih =>
    rw [Straight] at straight
    cases moved : step place name with
    | error failure =>
      refine .inr (stuck_cons fun path passed made => ?_)
      simp only [ensureBelow, moved]
      exact ⟨fun _ => trivial, Option.some_ne_none _⟩
    | ok next =>
      rw [moved] at straight
      simp only at straight
      cases node : disk.node? next with
      | none =>
        rw [node] at straight
        exact .inl ⟨_, (tree.leads_of_missing node straight).cons folder moved⟩
      | some stood =>
        cases stood with
        | file bytes =>
          refine .inr (stuck_cons fun path passed made => ?_)
          simp only [ensureBelow, moved, node]
          exact ⟨fun _ => trivial, Option.some_ne_none _⟩
        | folder =>
          rw [node] at straight
          rcases ih straight (hasFolder_iff.mpr node) with ⟨target, leads⟩ | stops
          · exact .inl ⟨target, leads.cons folder moved⟩
          · refine .inr (stuck_cons fun path passed made => ?_)
            simp only [ensureBelow, moved, node]
            exact stops path _ made

/-- The way to a folder of a tree is clear or shut if it is straight. -/
theorem Straight.clear_or_shut (straight : disk.Straight (basePlace folder.root) folder.names)
    (tree : disk.IsTree) : (∃ target, Clear disk folder target) ∨ disk.Shut folder := by
  rcases straight.leads_or_stuck tree (hasFolder_basePlace disk folder.root) with ⟨target, leads⟩ | stuck
  · have here : place? folder = some target := by
      rw [place?, leads.along]
      rfl
    refine .inl ⟨target, tree, fun target' here' count next along => ?_, here,
      fun count place bytes along standing => ?_⟩
    · cases here.symm.trans here'
      exact (leads.stands count next along).imp_right And.left
    · rcases leads.stands count place along with stands | ⟨-, missing⟩
      · rw [hasFolder_of_file standing] at stands
        cases stands
      · cases missing.symm.trans standing
  · refine .inr ⟨fun count => ?_, ?_⟩
    · rw [ensureFolders]
      cases refusal? (front folder count) with
      | some failure => rfl
      | none => exact (stuck (front folder count) [] false).1 count
    · rw [ensureFolders]
      cases refusal? folder with
      | some failure => exact Option.some_ne_none _
      | none => exact (stuck folder [] false).2

/-- What reading gives, by what stands at the place. -/
def readNode : Option Node → Except DiskFailure (List UInt8)
  | none => .error .notFound
  | some .folder => .error .isFolder
  | some (.file bytes) => .ok bytes

/-- Reading gives what stands at the place of the path. -/
theorem read_of_locate (found : disk.locate path = .ok place) :
    disk.read path = readNode (disk.node? place) := by
  rw [read, found]
  simp only
  cases disk.node? place with
  | none => rfl
  | some node => cases node <;> rfl

/-- Where the folder of a straight path could be made, the way was clear. -/
theorem Direct.clear_of_ensured (direct : disk.Direct folder) (tree : disk.IsTree)
    (done : (disk.ensureFolders folder).fault = none) : ∃ target, Clear disk folder target := by
  have spares := spares_ensureFolders disk folder
  rw [ensureFolders] at done spares
  cases refused : refusal? folder with
  | some failure =>
    rw [refused] at done
    cases done
  | none =>
    simp only [refused] at done spares
    obtain ⟨target, down⟩ := descend_ensureBelow done
    have here : place? folder = some target := by
      rw [place?, follow_of_descend down]
      rfl
    refine ⟨target, tree, direct, here, fun count place bytes along standing => ?_⟩
    have stands := hasFolder_on_way (hasFolder_basePlace _ folder.root) down along
    rcases spares.others place (fun _ mem => absurd mem List.not_mem_nil) with same | ⟨missing, -⟩
    · rw [hasFolder_iff, same, standing] at stands
      cases stands
    · cases missing.symm.trans standing

namespace Clear

/-- Making folders does not get in the way. -/
theorem spares (h : Clear before folder target) (spares : Spares [] before after) (tree : after.IsTree) :
    Clear after folder target := by
  refine ⟨tree, h.direct.mono spares.folders, h.here, fun count place bytes along standing => ?_⟩
  rcases spares.others place (fun _ mem => absurd mem List.not_mem_nil) with same | ⟨-, folder⟩
  · exact h.free count place bytes along (same.symm.trans standing)
  · cases folder.symm.trans standing

/-- Files of the folder do not get in the way, and other names of the folder keep what stands there. -/
theorem changes (h : Clear before folder target) (plain : ∀ name ∈ names, name ≠ "..")
    (changes : Changes (names.map folder.child) before after) (tree : after.IsTree) :
    Clear after folder target ∧
      ∀ name, name ∉ names → after.node? (target ++ [name]) = before.node? (target ++ [name]) := by
  have within {place : Location} {path : Path} (mem : path ∈ names.map folder.child)
      (at' : place? path = some place) : ∃ name ∈ names, place = target ++ [name] := by
    obtain ⟨name, listed, rfl⟩ := List.mem_map.mp mem
    exact ⟨name, listed, place_of_child h.here (plain name listed) at'⟩
  refine ⟨⟨tree, h.direct.mono changes.folders, h.here, fun count place bytes along standing => ?_⟩,
    fun name absent => ?_⟩
  · have noFolder : before.hasFolder place = false := by
      rw [← Bool.not_eq_true]
      intro stands
      have stays := changes.folders place stands
      rw [hasFolder_of_file standing] at stays
      cases stays
    have above : place <+: target := by
      rcases h.direct target h.here count place along with stands | above
      · rw [noFolder] at stands
        cases stands
      · exact above
    have length := above.length_le
    have same := changes.others place fun path mem at' => by
      obtain ⟨name, -, rfl⟩ := within mem at'
      rw [List.length_append, List.length_singleton] at length
      omega
    exact h.free count place bytes along (same.symm.trans standing)
  · refine changes.others _ fun path mem at' => ?_
    obtain ⟨one, mem, e⟩ := within mem at'
    have same : name = one := by simpa using e
    exact absurd (same ▸ mem) absent

/-- Folders on the way can be made unless their path is refused. -/
theorem fault_ensureFront (h : Clear disk folder target) (count : Nat) :
    (disk.ensureFolders (front folder count)).fault =
      (refusal? (front folder count)).map fun failure => ⟨failure, front folder count, none⟩ := by
  have along := follow_of_place? h.here
  rw [← List.take_append_drop count folder.names, follow_append] at along
  rw [ensureFolders]
  cases refusal? (front folder count) with
  | some failure => rfl
  | none =>
    cases part : follow (basePlace folder.root) (folder.names.take count) with
    | error failure =>
      rw [part] at along
      cases along
    | ok middle =>
      refine ensureBelow_done part fun upTo place bytes way standing => ?_
      rw [front, List.take_take] at way
      exact h.free _ place bytes way standing

/-- Once the folder is there, a path to one of its files is followed. -/
theorem locate_child (h : Clear disk folder target) (stands : disk.hasFolder target = true) :
    disk.locate (folder.child name) =
      match refusal? (folder.child name) with
      | some failure => .error failure
      | none => step target name := by
  rw [Disk.locate_child, h.tree.descend_of_direct h.direct h.here stands]
  rfl

/-- What is read from a file of the folder is told by what stands under its name. -/
theorem read_child (h : Clear disk folder target) (plain : name ≠ "..")
    (short : Utf8.size name ≤ longestName) :
    disk.read (folder.child name) =
      match refusal? (folder.child name) with
      | some failure => .error failure
      | none => readNode (disk.node? (target ++ [name])) := by
  have stepped : step target name = .ok (target ++ [name]) := by
    rw [step, if_neg plain, if_neg (Nat.not_lt.mpr short)]
  cases refused : refusal? (folder.child name) with
  | some failure =>
    have stops : disk.locate (folder.child name) = .error failure := by
      rw [Disk.locate_child, refused]
    simp only [read, stops]
  | none =>
    cases down : disk.descend (basePlace folder.root) folder.names with
    | ok last =>
      obtain rfl : last = target :=
        Except.ok.inj ((follow_of_descend down).symm.trans (follow_of_place? h.here))
      have found : disk.locate (folder.child name) = .ok (last ++ [name]) := by
        rw [Disk.locate_child, refused, down]
        exact stepped
      exact read_of_locate found
    | error failure =>
      have done : (disk.ensureBelow folder ⟨basePlace folder.root, [], false⟩ folder.names).fault = none :=
        ensureBelow_done (follow_of_place? h.here) h.free
      have missing : failure = .notFound := descend_failure done down
      have stops : disk.locate (folder.child name) = .error .notFound := by
        rw [Disk.locate_child, refused, down, missing]
        rfl
      have nothing : disk.node? (target ++ [name]) = none := by
        cases stands : disk.node? (target ++ [name]) with
        | none => rfl
        | some node =>
          have whole := h.tree.descend_of_direct h.direct h.here (h.tree _ _ _ stands)
          cases down.symm.trans whole
      rw [nothing, read, stops]
      rfl

end Clear

end Taskboard.Disk
