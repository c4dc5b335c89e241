import Taskboard.Proofs.Store.Decision
import Taskboard.Proofs.Task.Change

/-!
# Updates that go together

Several updates of a list go together if any two of them are about different tasks or supply different fields. Then
none undoes what another did: in whatever order they are made, each task ends up with every value that one of them
supplied, with its old values elsewhere, and with the latest second as the time of its change. Since that leaves one
list only, all orders lead to the same list in memory and, while saves succeed, to the same file.
-/

namespace Taskboard

/-- An update of one task, and the moment at which it is made. -/
structure Revision where
  /-- The moment. -/
  moment : Moment
  /-- Key of the task. -/
  taskId : Text
  /-- What is supplied. -/
  change : Change

namespace Revision

/-- The call that makes an update of a list. -/
def event (listId : Text) (revision : Revision) : Event :=
  .call revision.moment listId (.update revision.taskId revision.change)

/-- The second that the clock shows at the moment of an update, if it shows one. -/
def second? (revision : Revision) : Option Int := revision.moment.clock.second.toOption

/-- Whether two updates are about different tasks or supply different fields. -/
def Compatible (first second : Revision) : Prop :=
  first.taskId ≠ second.taskId ∨ first.change.Apart second.change

theorem Compatible.symm {first second : Revision} (h : first.Compatible second) : second.Compatible first :=
  h.imp Ne.symm Change.Apart.symm

instance (first second : Revision) : Decidable (first.Compatible second) :=
  inferInstanceAs (Decidable (_ ∨ _))

/-- The updates about one task. -/
def about (key : Text) (revisions : List Revision) : List Revision := revisions.filter (·.taskId = key)

end Revision

namespace Task

variable {task old new other : Task} {revision : Revision} {revisions order : List Revision} {field : Field}

/-- A task after an update. -/
def revised (task : Task) (revision : Revision) : Task :=
  (task.apply revision.change).touched revision.moment.clock.second

/-- What a task becomes through some updates of it, told without their order. -/
structure Combines (old : Task) (revisions : List Revision) (new : Task) : Prop where
  /-- Every field that is supplied has the supplied value. -/
  supplied : ∀ revision ∈ revisions, ∀ field value, revision.change.value? field = some value →
    new.value field = value
  /-- Every field that nobody supplies has its old value. -/
  unsupplied : ∀ field, (∀ revision ∈ revisions, revision.change.value? field = none) →
    new.value field = old.value field
  /-- The time of the change is the old one or a second that the clock showed. -/
  updatedAt : new.updatedAt ∈ old.updatedAt :: revisions.filterMap Revision.second?
  /-- It is the latest of these. -/
  latest : ∀ second ∈ old.updatedAt :: revisions.filterMap Revision.second?, second ≤ new.updatedAt
  /-- The identifier stays. -/
  id : new.id = old.id
  /-- The second at which the task was made stays. -/
  createdAt : new.createdAt = old.createdAt
  /-- What the task is said to block stays. -/
  blocks : new.blocks = old.blocks

/-- An update supplies what it supplies and leaves the other fields alone. -/
theorem value_revised (task : Task) (revision : Revision) (field : Field) :
    (task.revised revision).value field = (revision.change.value? field).getD (task.value field) := by
  rw [revised, ← value_apply]
  cases revision.moment.clock.second with
  | error fault => rfl
  | ok second => exact value_touch _ second field

/-- An update moves the time of the change to the second that the clock shows, but not back. -/
theorem updatedAt_revised (task : Task) (revision : Revision) :
    (task.revised revision).updatedAt = revision.second?.toList.foldl max task.updatedAt := by
  rw [revised, Revision.second?]
  cases revision.moment.clock.second with
  | error fault => rfl
  | ok second => rfl

/-- Some updates leave a field alone that none of them supplies. -/
theorem value_foldl_revised (task : Task) (none : ∀ revision ∈ revisions, revision.change.value? field = none) :
    (revisions.foldl revised task).value field = task.value field := by
  induction revisions generalizing task with
  | nil => rfl
  | cons revision revisions ih =>
    have first : (task.revised revision).value field = task.value field := by
      rw [value_revised, none revision List.mem_cons_self]
      rfl
    rw [List.foldl_cons, ih _ fun revision mem => none revision (List.mem_cons_of_mem _ mem), first]

/-- Some updates move the time of the change to the latest second that the clock showed. -/
theorem updatedAt_foldl_revised (task : Task) (revisions : List Revision) :
    (revisions.foldl revised task).updatedAt =
      (revisions.filterMap Revision.second?).foldl max task.updatedAt := by
  induction revisions generalizing task with
  | nil => rfl
  | cons revision revisions ih =>
    rw [List.foldl_cons, ih, updatedAt_revised, List.filterMap_cons]
    cases revision.second? <;> rfl

/-- Updates that supply different fields combine, whatever their order. -/
theorem combines_foldl (task : Task) (apart : revisions.Pairwise fun a b => a.change.Apart b.change) :
    task.Combines revisions (revisions.foldl revised task) := by
  have kept : task.Continues (revisions.foldl revised task) := by
    clear apart
    induction revisions generalizing task with
    | nil => exact .refl task
    | cons revision revisions ih => exact (task.continues_apply revision.change _).trans (ih _)
  have times := TaskList.foldl_max_spec task.updatedAt (revisions.filterMap Revision.second?)
  rw [← updatedAt_foldl_revised] at times
  refine ⟨?_, fun field none => task.value_foldl_revised none, times.1, times.2, kept.id, kept.createdAt, kept.blocks⟩
  intro revision mem field value supplied
  -- What comes after the update that supplies the field leaves the field alone.
  obtain ⟨early, late, rfl⟩ := List.append_of_mem mem
  have later (other : Revision) (mem : other ∈ late) : other.change.value? field = none := by
    have parted := (List.pairwise_cons.mp (List.pairwise_append.mp apart).2.1).1 other mem
    exact (parted field).resolve_left fun e => nomatch e.symm.trans supplied
  rw [List.foldl_append, List.foldl_cons, value_foldl_revised _ later, value_revised, supplied]
  rfl

/-- Updates combine to one task only. -/
theorem Combines.unique (first : old.Combines revisions new) (second : old.Combines revisions other) : new = other := by
  refine ext_value (fun field => ?_) (first.id.trans second.id.symm) (first.createdAt.trans second.createdAt.symm) ?_
    (first.blocks.trans second.blocks.symm)
  · by_cases given : ∃ revision ∈ revisions, (revision.change.value? field).isSome
    · obtain ⟨revision, mem, some⟩ := given
      obtain ⟨value, supplied⟩ := Option.isSome_iff_exists.mp some
      exact (first.supplied revision mem field value supplied).trans
        (second.supplied revision mem field value supplied).symm
    · have none (revision : Revision) (mem : revision ∈ revisions) : revision.change.value? field = none :=
        Option.not_isSome_iff_eq_none.mp fun some => given ⟨revision, mem, some⟩
      exact (first.unsupplied field none).trans (second.unsupplied field none).symm
  · exact Int.le_antisymm (second.latest _ first.updatedAt) (first.latest _ second.updatedAt)

/-- The order of updates is nothing that combining them depends on. -/
theorem Combines.perm (h : old.Combines order new) (same : order.Perm revisions) : old.Combines revisions new := by
  have seconds := (same.filterMap Revision.second?).cons old.updatedAt
  exact ⟨fun revision mem => h.supplied revision (same.mem_iff.mpr mem),
    fun field none => h.unsupplied field fun revision mem => none revision (same.mem_iff.mp mem),
    seconds.mem_iff.mp h.updatedAt, fun second mem => h.latest second (seconds.mem_iff.mpr mem), h.id, h.createdAt,
    h.blocks⟩

end Task

namespace TaskList

variable {list final other : TaskList} {revision : Revision} {revisions order : List Revision} {key : Text}

/-- A list after an update; an update of a task that is not there changes nothing. -/
def revise (list : TaskList) (revision : Revision) : TaskList :=
  match list.find? revision.taskId with
  | some task => list.put revision.taskId (task.revised revision)
  | none => list

/-- What a list becomes through some updates, told without their order. -/
structure Merges (list : TaskList) (revisions : List Revision) (final : TaskList) : Prop where
  /-- The counter stays. -/
  nextId : final.nextId = list.nextId
  /-- The keys stay, in stored order. -/
  keys : final.tasks.keys = list.tasks.keys
  /-- Every task becomes what the updates about it combine to. -/
  tasks : ∀ key task, list.find? key = some task →
    ∃ new, final.find? key = some new ∧ task.Combines (Revision.about key revisions) new

/-- An update is found in the task that it is about. -/
theorem find?_revise (list : TaskList) (revision : Revision) (key : Text) :
    (list.revise revision).find? key =
      (list.find? key).map fun task => if revision.taskId = key then task.revised revision else task := by
  rw [revise]
  cases found : list.find? revision.taskId with
  | none =>
    by_cases same : revision.taskId = key
    · subst same
      rw [found]
      rfl
    · simp [same]
  | some task =>
    rw [find?_put]
    by_cases same : revision.taskId = key
    · subst same
      simp [found]
    · simp [same, Ne.symm same]

/-- Updates are found in the tasks that they are about. -/
theorem find?_foldl_revise (list : TaskList) (revisions : List Revision) (key : Text) :
    (revisions.foldl revise list).find? key =
      (list.find? key).map fun task => (Revision.about key revisions).foldl Task.revised task := by
  induction revisions generalizing list with
  | nil => simp [Revision.about]
  | cons revision revisions ih =>
    rw [List.foldl_cons, ih, find?_revise, Option.map_map]
    congr 1
    funext task
    by_cases same : revision.taskId = key
    · simp [Revision.about, same]
    · simp [Revision.about, same]

/-- An update leaves the counter and the keys alone. -/
theorem frame_revise (list : TaskList) (revision : Revision) :
    (list.revise revision).nextId = list.nextId ∧ (list.revise revision).tasks.keys = list.tasks.keys := by
  rw [revise]
  split
  · next task found => exact ⟨rfl, by rw [put, Keyed.keys_put, if_pos (mem_keys_of_find? found)]⟩
  · exact ⟨rfl, rfl⟩

/-- So do some updates. -/
theorem frame_foldl_revise (list : TaskList) (revisions : List Revision) :
    (revisions.foldl revise list).nextId = list.nextId ∧
      (revisions.foldl revise list).tasks.keys = list.tasks.keys := by
  induction revisions generalizing list with
  | nil => exact ⟨rfl, rfl⟩
  | cons revision revisions ih =>
    obtain ⟨nextId, keys⟩ := list.frame_revise revision
    obtain ⟨nextId', keys'⟩ := ih (list.revise revision)
    exact ⟨nextId'.trans nextId, keys'.trans keys⟩

/-- Updates that go together merge, whatever their order. -/
theorem merges_foldl (list : TaskList) (together : revisions.Pairwise Revision.Compatible) :
    list.Merges revisions (revisions.foldl revise list) := by
  obtain ⟨nextId, keys⟩ := list.frame_foldl_revise revisions
  refine ⟨nextId, keys, fun key task found => ⟨_, ?_, task.combines_foldl ?_⟩⟩
  · rw [find?_foldl_revise, found]
    rfl
  · refine (together.filter (·.taskId = key)).imp_of_mem fun {a b} mem mem' compatible => ?_
    have first : a.taskId = key := of_decide_eq_true (List.mem_filter.mp mem).2
    have second : b.taskId = key := of_decide_eq_true (List.mem_filter.mp mem').2
    exact compatible.resolve_left fun ne => ne (first.trans second.symm)

/-- Updates merge to one list only. -/
theorem Merges.unique (first : list.Merges revisions final) (second : list.Merges revisions other) : final = other := by
  have absent {after : TaskList} (keys : after.tasks.keys = list.tasks.keys) {key : Text}
      (missing : list.find? key = none) : after.find? key = none := by
    refine Option.not_isSome_iff_eq_none.mp fun present => ?_
    have mem := (after.tasks.find?_isSome_iff key).mp present
    rw [keys, ← Keyed.find?_isSome_iff] at mem
    exact absurd mem (Option.not_isSome_iff_eq_none.mpr missing)
  have tasks : final.tasks = other.tasks := by
    refine Keyed.ext_find? (first.keys.trans second.keys.symm) fun key => ?_
    show final.find? key = other.find? key
    cases found : list.find? key with
    | none => rw [absent first.keys found, absent second.keys found]
    | some task =>
      obtain ⟨new, found', combines⟩ := first.tasks key task found
      obtain ⟨new', found'', combines'⟩ := second.tasks key task found
      rw [found', found'', combines.unique combines']
  have nextId := first.nextId.trans second.nextId.symm
  cases final
  cases other
  cases nextId
  cases tasks
  rfl

/-- The order of updates is nothing that merging them depends on. -/
theorem Merges.perm (h : list.Merges order final) (same : order.Perm revisions) : list.Merges revisions final := by
  refine ⟨h.nextId, h.keys, fun key task found => ?_⟩
  obtain ⟨new, found', combines⟩ := h.tasks key task found
  exact ⟨new, found', combines.perm (same.filter _)⟩

/-- All orders of updates that go together lead to the same list. -/
theorem foldl_revise_perm (list : TaskList) (together : revisions.Pairwise Revision.Compatible)
    (same : order.Perm revisions) : order.foldl revise list = revisions.foldl revise list := by
  have together' : order.Pairwise Revision.Compatible := together.perm same.symm Revision.Compatible.symm
  exact ((list.merges_foldl together').perm same).unique (list.merges_foldl together)

end TaskList

namespace Store

variable {store : Store} {listId : Text} {list after : TaskList} {operation : Operation} {host : Host}
  {outcome : Outcome operation.Answer}

/-- Whether the file of a list holds just what the list is saved as. -/
def OnFile (store : Store) (listId : Text) (disk : Disk) (list : TaskList) : Prop :=
  ∃ path bytes, store.filePath listId = .ok path ∧ list.save = .ok bytes ∧ disk.read path = .ok bytes

/-- Where the clock shows what is needed, a save of a changed list is tried, and decides over the answer. -/
theorem Course.saved_of_left (h : Course store listId operation host outcome) (dated : dated host)
    (opened : store.openedList listId host = .ok list)
    (left : (list.attempt listId host.clock.second operation).verdict.left? = some after) :
    ∃ answer saving, Saved (store.hold listId after) listId after host saving ∧
      outcome.result = saving.result.map (fun _ => answer) ∧ outcome.disk = saving.disk := by
  cases h with
  | unopened failure entries failed => cases opened.symm.trans failed
  | unchanged result entries opened' idle honest =>
    cases opened.symm.trans opened'
    cases idle.symm.trans left
  | unsaved failure entries opened' left' undated => exact absurd dated undated
  | @saved list' after' answer saving entries opened' changed course =>
    cases opened.symm.trans opened'
    rw [changed] at left
    cases left
    exact ⟨answer, saving, course, rfl, rfl⟩

/-- A changed list is on file afterwards if its change is answered. -/
theorem Course.onFile_of_ok (h : Course store listId operation host outcome) (dated : dated host)
    (opened : store.openedList listId host = .ok list)
    (left : (list.attempt listId host.clock.second operation).verdict.left? = some after)
    {answer : operation.Answer} (ok : outcome.result = .ok answer) : store.OnFile listId outcome.disk after := by
  obtain ⟨answer', saving, course, result, disk⟩ := h.saved_of_left dated opened left
  rw [disk]
  cases done : saving.result with
  | ok none => exact course.read_of_moved (course.moved_of_ok done)
  | error failure =>
    rw [result, done] at ok
    cases ok

/-- A changed list is on file afterwards, unless its save has failed. -/
theorem Course.onFile (h : Course store listId operation host outcome) (dated : dated host)
    (named : ∃ path, store.filePath listId = .ok path) (opened : store.openedList listId host = .ok list)
    (left : (list.attempt listId host.clock.second operation).verdict.left? = some after)
    (saved : ∀ failure, outcome.result = .error failure → failure.isFailedSave = false) :
    store.OnFile listId outcome.disk after := by
  cases answered : outcome.result with
  | ok answer => exact h.onFile_of_ok dated opened left answered
  | error failure =>
    obtain ⟨answer, saving, course, result, -⟩ := h.saved_of_left dated opened left
    cases done : saving.result with
    | ok none =>
      rw [result, done] at answered
      cases answered
    | error why =>
      have failed : outcome.result = .error why := by
        rw [result, done]
        rfl
      obtain ⟨path, named⟩ := named
      rcases course.reason done with unnamed | lost
      · cases named.symm.trans unnamed
      · cases (saved why failed).symm.trans lost

end Store

namespace Site

open TaskList

variable {site : Site} {listId : Text} {list : TaskList} {revision : Revision} {order : List Revision}

/-- An update whose save does not fail leaves the list that it makes in memory. If the task is there, that list is on
file, and otherwise the disk is as it was. -/
theorem revise_advance (filed : site.store.Filed) (shown : ∃ second, revision.moment.clock.second = .ok second)
    (dates : revision.moment.dates) (opens : site.store.Opens listId site.disk list)
    (saved : ∀ failure, (site.outcome revision.moment listId (.update revision.taskId revision.change)).result =
      .error failure → failure.isFailedSave = false) :
    (site.advance (revision.event listId)).store.lists.find? listId = some (list.revise revision) ∧
      (list.find? revision.taskId ≠ none →
        site.store.OnFile listId (site.advance (revision.event listId)).disk (list.revise revision)) ∧
      (list.find? revision.taskId = none →
        list.revise revision = list ∧ (site.advance (revision.event listId)).disk = site.disk) := by
  have dated : Store.dated (revision.moment.host site.disk) := by
    obtain ⟨second, shown⟩ := shown
    exact ⟨⟨second, shown⟩, dates second shown⟩
  have opened := opens.openedList (Store.noting_of_dated dated)
  have course := site.course revision.moment listId (.update revision.taskId revision.change)
  have left : (list.update listId revision.taskId revision.change revision.moment.clock.second).verdict.left? =
      (list.find? revision.taskId).map fun task => list.put revision.taskId (task.revised revision) :=
    list.update_left? revision.taskId revision.change
  cases found : list.find? revision.taskId with
  | none =>
    rw [found] at left
    have same : list.revise revision = list := by rw [revise, found]
    refine ⟨(course.held opened).trans (congrArg some ?_), fun some => absurd rfl some,
      fun _ => ⟨same, course.disk_of_idle opened left⟩⟩
    rw [same]
    exact congrArg (·.getD list) left
  | some task =>
    rw [found] at left
    have new : list.revise revision = list.put revision.taskId (task.revised revision) := by rw [revise, found]
    refine ⟨(course.held opened).trans (congrArg some ?_), fun _ => ?_, nofun⟩
    · rw [new]
      exact congrArg (·.getD list) left
    · rw [new]
      exact course.onFile dated (filed.named opened) opened left saved

/-- The same holds of updates that are made one after the other: the list that they make is in memory, and it is on
file if one of their tasks is there. -/
theorem revise_run (filed : site.store.Filed) (opens : site.store.Opens listId site.disk list)
    (shown : ∀ revision ∈ order, ∃ second, revision.moment.clock.second = .ok second)
    (dates : ∀ revision ∈ order, revision.moment.dates)
    (saved : ∀ reply ∈ site.replies (order.map (Revision.event listId)), reply.isFailedSave = false) :
    let after := site.run (order.map (Revision.event listId))
    (order ≠ [] → after.store.lists.find? listId = some (order.foldl revise list)) ∧
      ((∃ revision ∈ order, list.find? revision.taskId ≠ none) →
        site.store.OnFile listId after.disk (order.foldl revise list)) ∧
      ((∀ revision ∈ order, list.find? revision.taskId = none) →
        order.foldl revise list = list ∧ after.disk = site.disk) := by
  induction order generalizing site list with
  | nil =>
    refine ⟨fun some => absurd rfl some, ?_, fun _ => ⟨rfl, rfl⟩⟩
    rintro ⟨_, mem, -⟩
    cases mem
  | cons revision order ih =>
    have savedFirst (failure : Failure)
        (failed : (site.outcome revision.moment listId (.update revision.taskId revision.change)).result =
          .error failure) : failure.isFailedSave = false := by
      have first := saved _ List.mem_cons_self
      rw [Reply.isFailedSave, failed] at first
      exact first
    obtain ⟨held, present, absent⟩ := revise_advance filed (shown revision List.mem_cons_self)
      (dates revision List.mem_cons_self) opens savedFirst
    have folder : (site.advance (revision.event listId)).store.filePath listId = site.store.filePath listId := by
      rw [Store.filePath, Store.filePath, folder_advance]
    have same (other : Revision) :
        (list.revise revision).find? other.taskId = none ↔ list.find? other.taskId = none := by
      rw [find?_revise, Option.map_eq_none_iff]
    obtain ⟨held', present', absent'⟩ := ih (filed_advance filed (revision.event listId)) (.inMemory held)
      (fun other mem => shown other (List.mem_cons_of_mem _ mem))
      (fun other mem => dates other (List.mem_cons_of_mem _ mem))
      fun reply mem => saved reply (List.mem_cons_of_mem _ mem)
    simp only [ne_eq, same, Store.OnFile, folder] at present' absent'
    refine ⟨fun _ => ?_, fun some => ?_, fun none => ?_⟩
    · cases order with
      | nil => exact held
      | cons next rest => exact held' (List.cons_ne_nil next rest)
    · by_cases later : ∃ other ∈ order, list.find? other.taskId ≠ none
      · exact present' later
      · -- Nothing after the first update finds its task, so that what the first one saved stays.
        have missing (other : Revision) (mem : other ∈ order) : list.find? other.taskId = none :=
          Decidable.of_not_not fun there => later ⟨other, mem, there⟩
        obtain ⟨unchanged, still⟩ := absent' missing
        obtain ⟨other, mem, there⟩ := some
        rcases List.mem_cons.mp mem with rfl | mem
        · have saved := present there
          rw [← still] at saved
          rw [List.foldl_cons, unchanged]
          exact saved
        · exact absurd ⟨other, mem, there⟩ later
    · obtain ⟨unchanged, still⟩ := absent (none revision List.mem_cons_self)
      obtain ⟨unchanged', still'⟩ := absent' fun other mem => none other (List.mem_cons_of_mem _ mem)
      exact ⟨unchanged'.trans unchanged, still'.trans still⟩

/-- Updates of a list that go together, any two being about different tasks or supplying different fields, lead to the
same list in whatever order they are made, as long as the clock shows the time and no save fails: each task has every
value that was supplied for it, its old values elsewhere, and the latest second as the time of its change, while the
counter and the keys stay. That list is in memory, and if one of the tasks is there, its file holds what it is saved as;
if none is, the list and the disk stay as they are. -/
theorem updates_merge (dataFolder : Path) (disk : Disk) (spare : Nat) (before : List Event) (listId : Text)
    (list : TaskList)
    (loaded : ((opened dataFolder disk spare).run before).store.Opens listId
      ((opened dataFolder disk spare).run before).disk list)
    (updates : List Revision) (together : updates.Pairwise Revision.Compatible)
    (shown : ∀ revision ∈ updates, ∃ second, revision.moment.clock.second = .ok second)
    (dates : ∀ revision ∈ updates, revision.moment.dates) :
    let site := (opened dataFolder disk spare).run before
    ∃ final, list.Merges updates final ∧ ∀ order : List Revision, order.Perm updates →
      (∀ reply ∈ site.replies (order.map (Revision.event listId)), reply.isFailedSave = false) →
      let after := site.run (order.map (Revision.event listId))
      (updates ≠ [] → after.store.lists.find? listId = some final) ∧
        ((∃ revision ∈ updates, list.find? revision.taskId ≠ none) → site.store.OnFile listId after.disk final) ∧
        ((∀ revision ∈ updates, list.find? revision.taskId = none) → final = list ∧ after.disk = site.disk) := by
  intro site
  refine ⟨updates.foldl revise list, list.merges_foldl together, fun order same saved => ?_⟩
  have filed := filed_opened dataFolder disk spare before
  obtain ⟨held, present, absent⟩ := revise_run filed loaded (fun revision mem => shown revision (same.mem_iff.mp mem))
    (fun revision mem => dates revision (same.mem_iff.mp mem)) saved
  rw [list.foldl_revise_perm together same] at held present absent
  refine ⟨fun some => held fun e => some ?_,
    fun ⟨revision, mem, there⟩ => present ⟨revision, same.mem_iff.mpr mem, there⟩,
    fun none => absent fun revision mem => none revision (same.mem_iff.mp mem)⟩
  exact (e ▸ same).symm.eq_nil

/-- Events that make two tasks. -/
def drafting : List Event := [.call (.calm 5) "l" (.create "s" ""), .call (.calm 6) "l" (.create "t" "")]

/-- The list that they leave. -/
def draft : TaskList := ⟨3, .ofList [("1", .fresh "1" "s" "" 5), ("2", .fresh "2" "t" "" 6)]⟩

/-- Two updates of one task that supply different fields, one of a task that is not there, and one of another task by
a clock that has gone back. -/
def edits : List Revision :=
  [⟨.calm 9, "1", ⟨some .completed, none, some "d", none, none⟩⟩, ⟨.calm 8, "9", ⟨none, some "x", none, none, none⟩⟩,
    ⟨.calm 7, "1", ⟨none, none, none, some "w", some ["2"]⟩⟩, ⟨.calm 4, "2", ⟨none, some "u", none, none, none⟩⟩]

/-- The list that these make of it. -/
def edited : TaskList :=
  ⟨3, .ofList [("1", ⟨"1", "s", "d", .completed, 5, 9, some "w", [], ["2"]⟩),
    ("2", .fresh "2" "u" "" 6)]⟩

/-- From the first to the last and from the last to the first they lead to the same list and the same file. -/
theorem updates_merge_edits :
    edits.Pairwise Revision.Compatible ∧ ∀ order ∈ [edits, edits.reverse],
      (((opened ⟨.here, ["d"]⟩ .empty 0).run drafting).run (order.map (Revision.event "l"))).store.lists.find? "l" =
          some edited ∧
        ((opened ⟨.here, ["d"]⟩ .empty 0).run drafting).store.OnFile "l"
          (((opened ⟨.here, ["d"]⟩ .empty 0).run drafting).run (order.map (Revision.event "l"))).disk edited := by
  have held : ((opened ⟨.here, ["d"]⟩ .empty 0).run drafting).store.lists.find? "l" = some draft := by decide +kernel
  have together : edits.Pairwise Revision.Compatible := by decide +kernel
  have shown : ∀ revision ∈ edits, ∃ second, revision.moment.clock.second = .ok second := by
    simp only [edits, List.forall_mem_cons]
    exact ⟨⟨9, rfl⟩, ⟨8, rfl⟩, ⟨7, rfl⟩, ⟨4, rfl⟩, List.forall_mem_nil _⟩
  have calm (second : Int) (shown : (Clock.ofInt second).logTime = .ok (.ofInt second)) : (Moment.calm second).dates :=
    fun _ _ _ => ⟨_, shown⟩
  have dates : ∀ revision ∈ edits, revision.moment.dates := by
    simp only [edits, List.forall_mem_cons]
    exact ⟨calm 9 rfl, calm 8 rfl, calm 7 rfl, calm 4 rfl, List.forall_mem_nil _⟩
  have saved : ∀ order ∈ [edits, edits.reverse],
      ∀ reply ∈ ((opened ⟨.here, ["d"]⟩ .empty 0).run drafting).replies (order.map (Revision.event "l")),
        reply.isFailedSave = false := by decide +kernel
  have reached : (((opened ⟨.here, ["d"]⟩ .empty 0).run drafting).run
      (edits.map (Revision.event "l"))).store.lists.find? "l" = some edited := by decide +kernel
  obtain ⟨final, -, orders⟩ :=
    updates_merge ⟨.here, ["d"]⟩ .empty 0 drafting "l" draft (.inMemory held) edits together shown dates
  have present : ∃ revision ∈ edits, draft.find? revision.taskId ≠ none := by decide +kernel
  have memory := (orders edits (.refl _) (saved edits List.mem_cons_self)).1 (List.cons_ne_nil _ _)
  have same : final = edited := Option.some.inj (memory.symm.trans reached)
  subst same
  refine ⟨together, fun order mem => ?_⟩
  have perm : order.Perm edits := by
    simp only [List.mem_cons, List.not_mem_nil, or_false] at mem
    rcases mem with rfl | rfl
    · exact .refl _
    · exact edits.reverse_perm
  obtain ⟨memory, file, -⟩ := orders order perm (saved order mem)
  exact ⟨memory (List.cons_ne_nil _ _), file present⟩

end Site

end Taskboard
