import Taskboard.Proofs.Disk.Step

/-!
# Disks that are trees

A disk is a tree if everything on it stands in a folder. The steps of a save keep it one. A path leads straight
down if each place on its way has a folder already or lies on the straight way to the end; making the missing
folders of such a path changes nothing below its end.
-/

namespace Taskboard.Disk

variable {disk before after : Disk} {path : Path} {place next target : Location}
  {names : List Text} {name : Text}

/-- Everything stands in a folder. -/
def IsTree (disk : Disk) : Prop :=
  ∀ place name node, disk.node? (place ++ [name]) = some node → disk.hasFolder place = true

/-- An empty working folder is a tree. -/
theorem isTree_empty : IsTree empty := by
  intro place name node stands
  have base : isBase place = true := by
    have all : isBase (place ++ [name]) = true := by
      rw [← Bool.not_eq_false]
      intro inside
      rw [node?, if_neg (by rw [inside]; exact Bool.false_ne_true)] at stands
      cases stands
    rw [isBase, List.all_append, Bool.and_eq_true] at all
    exact all.1
  rw [hasFolder_iff, node?, if_pos base]

/-- A place outside the working folder has a folder. -/
theorem hasFolder_of_isBase (base : isBase place = true) : disk.hasFolder place = true := by
  rw [hasFolder_iff, node?, if_pos base]

/-- What stands above a folder of a tree is a folder, all the way up. -/
theorem IsTree.hasFolder_of_prefix (tree : disk.IsTree) (folder : disk.hasFolder target = true)
    (above : place <+: target) : disk.hasFolder place = true := by
  obtain ⟨names, rfl⟩ := above
  induction names generalizing place with
  | nil => rwa [List.append_nil] at folder
  | cons name names ih =>
    have below : place ++ name :: names = place ++ [name] ++ names := by simp
    rw [below] at folder
    exact tree _ _ _ (hasFolder_iff.mp (ih folder))

/-- A folder or file that is put into a folder leaves a tree a tree. -/
theorem IsTree.put (tree : disk.IsTree) {node : Node} (free : disk.hasFolder place = false)
    (within : ∀ folder name, place = folder ++ [name] → disk.hasFolder folder = true) :
    (disk.put place node).IsTree := by
  have base := isBase_of_not_hasFolder free
  intro folder name other stands
  have folderStands : disk.hasFolder folder = true := by
    rw [node?_put _ _ _ _ base] at stands
    split at stands
    · next here => exact within folder name here.symm
    · exact tree folder name other stands
  have ne : folder ≠ place := by
    rintro rfl
    rw [free] at folderStands
    cases folderStands
  rw [hasFolder_iff, node?_put _ _ _ _ base, if_neg ne]
  exact hasFolder_iff.mp folderStands

/-- A folder or file that is put under a new name into a folder leaves a tree a tree. -/
theorem IsTree.put_child (tree : disk.IsTree) (folder : Location) (name : Text) (node : Node)
    (stands : disk.hasFolder folder = true) (free : disk.hasFolder (folder ++ [name]) = false) :
    (disk.put (folder ++ [name]) node).IsTree :=
  tree.put free fun _ _ e => (List.append_inj' e rfl).1 ▸ stands

/-- Nothing stands where a node was taken away. -/
theorem node?_erase_self (base : isBase place = false) : (disk.erase place).node? place = none := by
  have none (nodes : List (Location × Node)) :
      entryAt place (nodes.filter fun entry => entry.1 ≠ place) = none := by
    induction nodes with
    | nil => rfl
    | cons entry nodes ih =>
      by_cases here : entry.1 = place
      · simpa [here] using ih
      · simpa [here, entryAt] using ih
  rw [node?, base, erase]
  exact none disk.nodes

/-- Taking away what is not a folder leaves a tree a tree. -/
theorem IsTree.erase (tree : disk.IsTree) (free : disk.hasFolder place = false) :
    (disk.erase place).IsTree := by
  intro folder name other stands
  have elsewhere : folder ++ [name] ≠ place := by
    intro here
    rw [here, node?_erase_self (isBase_of_not_hasFolder free)] at stands
    cases stands
  rw [node?_erase elsewhere] at stands
  have folderStands := tree folder name other stands
  have ne : folder ≠ place := by
    rintro rfl
    rw [free] at folderStands
    cases folderStands
  rw [hasFolder_iff, node?_erase ne]
  exact hasFolder_iff.mp folderStands

/-- In a tree, one step from a folder leads to a place in a folder. -/
theorem IsTree.hasFolder_of_step (tree : disk.IsTree) (folder : disk.hasFolder place = true)
    (moved : step place name = .ok next) {above : Location} {last : Text}
    (e : next = above ++ [last]) : disk.hasFolder above = true := by
  rw [step] at moved
  split at moved
  · cases moved
    rw [Disk.above] at e
    split at e
    · have root : above = [] := by
        have lengths := congrArg List.length e
        simp only [List.length_append, List.length_cons, List.length_nil] at lengths
        exact List.eq_nil_of_length_eq_zero (by omega)
      rw [root]
      exact hasFolder_of_isBase rfl
    · next name other =>
      split at e
      · rw [← (List.append_inj' e rfl).1]
        exact folder
      split at e
      · rw [e, hasFolder_iff] at folder
        exact tree _ _ _ folder
      · obtain ⟨first, rfl⟩ := List.getLast?_eq_some_iff.mp other
        rw [List.dropLast_concat] at e
        have up : disk.hasFolder first = true := tree _ _ _ (hasFolder_iff.mp folder)
        rw [e, hasFolder_iff] at up
        exact tree _ _ _ up
  · split at moved
    · cases moved
    · cases moved
      rw [← (List.append_inj' e rfl).1]
      exact folder

/-- A way through folders ends in a folder. -/
theorem hasFolder_of_descend (folder : disk.hasFolder place = true)
    (down : disk.descend place names = .ok next) : disk.hasFolder next = true := by
  induction names generalizing place with
  | nil =>
    cases down
    exact folder
  | cons name names ih =>
    rw [descend] at down
    split at down
    · cases down
    · split at down
      · cases down
      · cases down
      · next stands => exact ih (hasFolder_iff.mpr stands) down

/-- Where a path starts is a folder. -/
theorem hasFolder_basePlace (disk : Disk) (root : PathRoot) : disk.hasFolder (basePlace root) = true := by
  cases root <;> exact hasFolder_of_isBase rfl

/-- The missing folders of a path are made within folders. -/
theorem IsTree.ensureBelow (tree : disk.IsTree) {progress : Progress}
    (folder : disk.hasFolder progress.place = true) (names : List Text) :
    (disk.ensureBelow path progress names).disk.IsTree := by
  induction names generalizing disk progress with
  | nil => exact tree
  | cons name names ih =>
    rw [Disk.ensureBelow]
    simp only
    cases moved : step progress.place name with
    | error failure => exact tree
    | ok next =>
      simp only
      cases node : disk.node? next with
      | none =>
        have free : disk.hasFolder next = false := hasFolder_of_none node
        refine ih (tree.put free fun above last e => tree.hasFolder_of_step folder moved e) ?_
        rw [hasFolder_iff, node?_put _ _ _ _ (isBase_of_not_hasFolder free), if_pos rfl]
      | some stood =>
        cases stood with
        | folder => exact ih tree (hasFolder_iff.mpr node)
        | file bytes => exact tree

/-- Making a folder and those above it leaves a tree a tree. -/
theorem IsTree.ensureFolders (tree : disk.IsTree) (path : Path) :
    (disk.ensureFolders path).disk.IsTree := by
  rw [Disk.ensureFolders]
  split
  · exact tree
  · exact tree.ensureBelow (hasFolder_basePlace disk path.root) path.names

/-- A path that can be followed leads into a folder. -/
theorem IsTree.hasFolder_of_locate (tree : disk.IsTree) (found : disk.locate path = .ok place)
    {above : Location} {last : Text} (e : place = above ++ [last]) : disk.hasFolder above = true := by
  rw [locate] at found
  split at found
  · cases found
  split at found
  · cases found
    have base := hasFolder_basePlace disk path.root
    rw [e, hasFolder_iff] at base
    exact tree _ _ _ base
  · split at found
    · cases found
    · next folder down =>
      exact tree.hasFolder_of_step (hasFolder_of_descend (hasFolder_basePlace disk path.root) down) found e

/-- Writing a file leaves a tree a tree. -/
theorem IsTree.write (tree : disk.IsTree) (path : Path) (bytes : List UInt8) :
    (disk.write path bytes).disk.IsTree := by
  rw [Disk.write]
  split
  · exact tree
  · next place found =>
    split
    · exact tree
    · next free =>
      exact tree.put (Bool.eq_false_iff.mpr free) fun above last e => tree.hasFolder_of_locate found e

/-- Moving a file leaves a tree a tree. -/
theorem IsTree.rename (tree : disk.IsTree) {source : Path} {bytes : List UInt8} (target : Path)
    (located : disk.locate source = .ok place) (file : disk.node? place = some (.file bytes)) :
    (disk.rename source target).disk.IsTree := by
  rcases rename_cases disk source target with ⟨-, same⟩ | ⟨old, new, node, from', to', stood, free, e⟩
  · rw [same]
    exact tree
  · cases located.symm.trans from'
    have noFolder : disk.hasFolder place = false := hasFolder_of_file file
    have taken := tree.erase noFolder
    have freeAfter : (disk.erase place).hasFolder new = false := by
      by_cases here : new = place
      · rw [here]
        exact hasFolder_of_none (node?_erase_self (isBase_of_not_hasFolder noFolder))
      · rw [hasFolder, node?_erase here]
        exact free
    rw [e]
    refine taken.put freeAfter fun above last e => ?_
    have folder := tree.hasFolder_of_locate to' e
    have ne : above ≠ place := by
      rintro rfl
      rw [noFolder] at folder
      cases folder
    rw [hasFolder_iff, node?_erase ne]
    exact hasFolder_iff.mp folder

/-- Folders that are made lie on the way of the names. -/
theorem made_ensureBelow {progress : Progress} (missing : disk.node? place = none)
    (made : (disk.ensureBelow path progress names).disk.node? place ≠ none) :
    ∃ count, follow progress.place (names.take count) = .ok place := by
  induction names generalizing disk progress with
  | nil => exact absurd missing made
  | cons name names ih =>
    rw [Disk.ensureBelow] at made
    simp only at made
    cases moved : step progress.place name with
    | error failure =>
      rw [moved] at made
      exact absurd missing made
    | ok next =>
      have further {count : Nat} (h : follow next (names.take count) = .ok place) :
          ∃ count, follow progress.place ((name :: names).take count) = .ok place := by
        refine ⟨count + 1, ?_⟩
        rw [List.take_succ_cons, follow, moved]
        exact h
      simp only [moved] at made
      cases node : disk.node? next with
      | none =>
        simp only [node] at made
        by_cases here : place = next
        · have stop : follow next (names.take 0) = .ok place := by
            rw [here]
            rfl
          exact further stop
        · have base : isBase next = false :=
            isBase_of_not_hasFolder (hasFolder_of_none node)
          have missing' : (disk.put next .folder).node? place = none := by
            rw [node?_put _ _ _ _ base, if_neg here]
            exact missing
          obtain ⟨count, h⟩ := ih missing' made
          exact further h
      | some stood =>
        simp only [node] at made
        cases stood with
        | folder =>
          obtain ⟨count, h⟩ := ih missing made
          exact further h
        | file bytes => exact absurd missing made

/-- Where the missing folders of a path can be made, nothing but a missing folder stops one before. -/
theorem descend_failure {progress : Progress} {failure : DiskFailure}
    (done : (disk.ensureBelow path progress names).fault = none)
    (stopped : disk.descend progress.place names = .error failure) : failure = .notFound := by
  induction names generalizing progress with
  | nil => cases stopped
  | cons name names ih =>
    rw [Disk.ensureBelow] at done
    rw [descend] at stopped
    cases moved : step progress.place name with
    | error failure =>
      rw [moved] at done
      cases done
    | ok next =>
      simp only [moved] at done stopped
      cases node : disk.node? next with
      | none =>
        rw [node] at stopped
        cases stopped
        rfl
      | some stood =>
        cases stood with
        | folder =>
          simp only [node] at done stopped
          exact ih done stopped
        | file bytes =>
          simp only [node] at done
          cases done

/-- If there are folders all along the way of names, one can go down. -/
theorem descend_of_follow (along : follow place names = .ok next)
    (folders : ∀ count middle, follow place (names.take count) = .ok middle →
      disk.hasFolder middle = true) : disk.descend place names = .ok next := by
  induction names generalizing place with
  | nil => exact along
  | cons name names ih =>
    rw [follow] at along
    rw [descend]
    cases moved : step place name with
    | error failure =>
      rw [moved] at along
      cases along
    | ok middle =>
      rw [moved] at along
      have folder : disk.hasFolder middle = true := by
        refine folders 1 middle ?_
        rw [List.take_succ_cons, List.take_zero, follow, moved]
        rfl
      simp only [hasFolder_iff.mp folder]
      refine ih along fun count last h => folders (count + 1) last ?_
      rw [List.take_succ_cons, follow, moved]
      exact h

/-- A path leads straight down if each place on its way has a folder already or lies on the straight way to
the end. -/
def Direct (disk : Disk) (path : Path) : Prop :=
  ∀ target, place? path = some target → ∀ count next,
    follow (basePlace path.root) (path.names.take count) = .ok next →
      disk.hasFolder next = true ∨ next <+: target

/-- A straight path leads straight down after more folders were made, too. -/
theorem Direct.mono (direct : before.Direct path)
    (folders : ∀ place, before.hasFolder place = true → after.hasFolder place = true) :
    after.Direct path := fun target here count next along =>
  (direct target here count next along).imp_left (folders next)

/-- A path without two dots leads straight down. -/
theorem direct_of_plain (plain : Text.ofString ".." ∉ path.names) : disk.Direct path := by
  have straight (place next : Location) (names : List Text) (plain : Text.ofString ".." ∉ names)
      (along : follow place names = .ok next) : next = place ++ names := by
    induction names generalizing place with
    | nil =>
      cases along
      exact (List.append_nil _).symm
    | cons name names ih =>
      rw [List.mem_cons, not_or] at plain
      rw [follow] at along
      cases moved : step place name with
      | error failure =>
        rw [moved] at along
        cases along
      | ok middle =>
        rw [moved] at along
        rw [ih middle plain.2 along, step_of_ne (Ne.symm plain.1) moved, List.append_assoc]
        rfl
  intro target here count next along
  right
  rw [straight _ _ _ plain (follow_of_place? here),
    straight _ _ _ (fun mem => plain (List.mem_of_mem_take mem)) along]
  exact (List.prefix_append_right_inj _).mpr (List.take_prefix count path.names)

/-- All places on a way through folders are folders. -/
theorem hasFolder_on_way {count : Nat} {middle : Location} (folder : disk.hasFolder place = true)
    (down : disk.descend place names = .ok next) (along : follow place (names.take count) = .ok middle) :
    disk.hasFolder middle = true := by
  induction names generalizing place count with
  | nil =>
    rw [List.take_nil] at along
    cases along
    exact folder
  | cons name names ih =>
    cases count with
    | zero =>
      cases along
      exact folder
    | succ count =>
      rw [List.take_succ_cons, follow] at along
      rw [descend] at down
      cases moved : step place name with
      | error failure =>
        rw [moved] at down
        cases down
      | ok middle =>
        rw [moved] at along down
        simp only at along down
        split at down
        · cases down
        · cases down
        · next stands => exact ih (hasFolder_iff.mpr stands) down along

/-- Going down names one after the other. -/
theorem descend_append {rest : List Text} :
    disk.descend place (names ++ rest) =
      (disk.descend place names).bind fun next => disk.descend next rest := by
  induction names generalizing place with
  | nil => rfl
  | cons name names ih =>
    rw [List.cons_append, descend, descend]
    cases step place name with
    | error failure => rfl
    | ok next =>
      simp only
      split
      · rfl
      · rfl
      · exact ih

/-- A path that leads to a folder can be followed to the end. -/
theorem descend_of_isFolder (h : disk.isFolder path = true) :
    ∃ place, disk.descend (basePlace path.root) path.names = .ok place := by
  rw [isFolder] at h
  split at h
  · cases h
  · next place found =>
    rw [locate] at found
    split at found
    · cases found
    · split at found
      · next none =>
        rw [List.getLast?_eq_none_iff.mp none]
        exact ⟨_, rfl⟩
      · next name last =>
        obtain ⟨first, names⟩ := List.getLast?_eq_some_iff.mp last
        split at found
        · cases found
        · next folder down =>
          rw [names, List.dropLast_concat] at down
          refine ⟨place, ?_⟩
          rw [names, descend_append, down]
          show disk.descend folder [name] = .ok place
          rw [descend, found]
          simp only [hasFolder_iff.mp h]
          rfl

/-- A folder of a folder that is there leads straight down. -/
theorem direct_of_isFolder (h : disk.isFolder path = true) (name : Text) :
    disk.Direct (path.child name) := by
  obtain ⟨place, down⟩ := descend_of_isFolder h
  intro target here count next along
  rcases Nat.lt_or_ge path.names.length count with long | short
  · right
    have whole : (path.child name).names.take count = (path.child name).names :=
      List.take_of_length_le (by simp only [Path.child, List.length_append, List.length_singleton]; omega)
    rw [whole] at along
    rw [place?, along] at here
    cases here
    exact List.prefix_refl _
  · left
    have part : (path.child name).names.take count = path.names.take count :=
      List.take_append_of_le_length short
    rw [part] at along
    exact hasFolder_on_way (hasFolder_basePlace disk path.root) down along

/-- A folder of a folder that is there, or to which no two dots lead, leads straight down. -/
theorem direct_child (reached : disk.isFolder path = true ∨ Text.ofString ".." ∉ path.names) (plain : name ≠ "..") :
    disk.Direct (path.child name) := by
  rcases reached with folder | straight
  · exact direct_of_isFolder folder name
  · refine direct_of_plain fun mem => ?_
    rcases List.mem_append.mp mem with mem | mem
    · exact straight mem
    · exact plain (List.mem_singleton.mp mem).symm

/-- On a tree, a straight path to a folder that is there can be followed. -/
theorem IsTree.descend_of_direct (tree : disk.IsTree) (direct : disk.Direct path)
    (here : place? path = some target) (folder : disk.hasFolder target = true) :
    disk.descend (basePlace path.root) path.names = .ok target := by
  refine descend_of_follow (follow_of_place? here) fun count middle h => ?_
  rcases direct target here count middle h with stands | above
  · exact stands
  · exact tree.hasFolder_of_prefix folder above

/-- The path up to so many of its names. -/
def front (path : Path) (count : Nat) : Path := ⟨path.root, path.names.take count⟩

/-- All names of a path make the whole of it. -/
theorem front_length (path : Path) : front path path.names.length = path := by
  rw [front, List.take_length]

/-- Making folders on the way of a straight path changes nothing below its end. -/
theorem Direct.node?_ensureFront (direct : disk.Direct path) (here : place? path = some target)
    (count : Nat) (name : Text) :
    (disk.ensureFolders (front path count)).disk.node? (target ++ [name]) =
      disk.node? (target ++ [name]) := by
  rcases (spares_ensureFolders disk (front path count)).others (target ++ [name])
    (fun _ mem => absurd mem List.not_mem_nil) with same | ⟨missing, made⟩
  · exact same
  · rw [ensureFolders] at made ⊢
    cases refused : refusal? (front path count) with
    | some failure => rfl
    | none =>
      rw [refused] at made
      simp only at made
      obtain ⟨upTo, along⟩ := made_ensureBelow missing (by rw [made]; exact Option.some_ne_none _)
      rw [front, List.take_take] at along
      exfalso
      rcases direct target here _ _ along with stands | above
      · rw [hasFolder_iff, missing] at stands
        cases stands
      · have length := above.length_le
        rw [List.length_append, List.length_singleton] at length
        omega

end Taskboard.Disk
