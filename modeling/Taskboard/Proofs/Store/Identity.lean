import Mathlib.Data.List.Nodup
import Taskboard.Proofs.Store.Run

/-!
# Identifiers of tasks

Operations look for a task under its key, and a listing shows the identifiers that the tasks carry. The two
agree on every task that the store makes, but a file may say otherwise and is loaded all the same. A list
in which every task is stored under its own identifier stays one; then the listed identifiers are
different, and each leads to its task. Any other list is a counterexample as it is loaded.
-/

namespace Taskboard

namespace TaskList

variable {list after : TaskList} {now : Except QuantityFault Int} {task : Task}

/-- Every task is stored under its own identifier. -/
def Named (list : TaskList) : Prop := ∀ entry ∈ list.tasks.entries, entry.2.id = entry.1

/-- In such a list a task is found under its identifier only. -/
theorem Named.id_eq (h : list.Named) {key : Text} (found : list.find? key = some task) :
    task.id = key :=
  h (key, task) (Keyed.find?_eq_some_iff.mp found)

/-- A list in which a task is found under its identifier only. -/
theorem named_of_find? (h : ∀ key task, list.find? key = some task → task.id = key) : list.Named :=
  fun entry mem => h entry.1 entry.2 (Keyed.find?_eq_some_iff.mpr mem)

/-- The time of a change is not a change of identifier. -/
theorem id_touched (task : Task) : (task.touched now).id = task.id := by
  cases now <;> rfl

/-- A task put under its own identifier is not misnamed. -/
theorem Named.put (h : list.Named) (task : Task) : (list.put task.id task).Named := by
  refine named_of_find? fun key other found => ?_
  rw [find?_put] at found
  split at found
  · next same =>
    cases found
    exact same.symm
  · exact h.id_eq found

/-- Every change keeps tasks under their own identifiers. -/
theorem Named.becomes (h : list.Named) {operation : Operation} (becomes : Becomes list now operation after) :
    after.Named := by
  cases becomes with
  | @created subject description second shown short =>
    have counted : Named { list with nextId := list.nextId + 1 } := h
    exact counted.put (.fresh (Decimal.natText list.nextId) subject description second)
  | @updated key change task found =>
    have id : task.id = key := h.id_eq found
    have own : ((task.apply change).touched now).id = key := (id_touched (task.apply change)).trans id
    have stored := h.put ((task.apply change).touched now)
    rwa [own] at stored
  | @claimed key owner task found pending free =>
    have id : task.id = key := h.id_eq found
    have own : ((task.claimedBy owner).touched now).id = key := (id_touched (task.claimedBy owner)).trans id
    have stored := h.put ((task.claimedBy owner).touched now)
    rwa [own] at stored

/-- A listing that asks for no status shows all tasks. -/
theorem listed_none (list : TaskList) : list.listed none = list.sorted :=
  List.filter_eq_self.mpr fun _ _ => rfl

/-- The listed tasks are the stored ones. -/
theorem listed_perm (list : TaskList) : (list.listed none).Perm list.tasks.values := by
  rw [listed_none]
  exact List.mergeSort_perm _ _

/-- The order of numbers is transitive. -/
theorem numbered_trans (a b c : Task) (first : decide (Task.numericId a.id ≤ Task.numericId b.id) = true)
    (second : decide (Task.numericId b.id ≤ Task.numericId c.id) = true) :
    decide (Task.numericId a.id ≤ Task.numericId c.id) = true :=
  decide_eq_true (Int.le_trans (of_decide_eq_true first) (of_decide_eq_true second))

/-- Of two tasks one comes first in the order of numbers. -/
theorem numbered_total (a b : Task) : (decide (Task.numericId a.id ≤ Task.numericId b.id) ||
    decide (Task.numericId b.id ≤ Task.numericId a.id)) = true := by
  rw [Bool.or_eq_true]
  exact (Int.le_total (Task.numericId a.id) (Task.numericId b.id)).imp decide_eq_true decide_eq_true

/-- Tasks are listed by the numbers of their identifiers. -/
theorem listed_pairwise (list : TaskList) (status : Option Status) :
    (list.listed status).Pairwise fun a b => Task.numericId a.id ≤ Task.numericId b.id := by
  have sorted := List.pairwise_mergeSort numbered_trans numbered_total list.tasks.values
  exact (sorted.filter _).imp of_decide_eq_true

/-- Tasks that are stored in the order of their numbers are listed in that order. -/
theorem listed_of_ordered (status : Option Status)
    (ordered : list.tasks.values.Pairwise fun a b => decide (Task.numericId a.id ≤ Task.numericId b.id) = true) :
    list.listed status = list.tasks.values.filter fun task => status.all (task.status = ·) := by
  rw [listed, sorted, List.mergeSort_of_pairwise ordered]

/-- A task is listed exactly if it is found. -/
theorem mem_listed : task ∈ list.listed none ↔ ∃ key, list.find? key = some task := by
  rw [list.listed_perm.mem_iff, Keyed.values, List.mem_map]
  constructor
  · rintro ⟨entry, mem, rfl⟩
    exact ⟨entry.1, Keyed.find?_eq_some_iff.mpr mem⟩
  · rintro ⟨key, found⟩
    exact ⟨(key, task), Keyed.find?_eq_some_iff.mp found, rfl⟩

/-- The identifiers in such a list are its keys, in stored order. -/
theorem Named.ids_values (h : list.Named) : list.tasks.values.map Task.id = list.tasks.keys := by
  rw [Keyed.values, Keyed.keys, List.map_map]
  exact List.map_congr_left fun entry mem => h entry mem

/-- The listed identifiers of such a list are its keys. -/
theorem Named.ids_perm (h : list.Named) : ((list.listed none).map Task.id).Perm list.tasks.keys := by
  rw [← h.ids_values]
  exact list.listed_perm.map Task.id

/-- Every listed task of such a list is found under its identifier. -/
theorem Named.find?_listed (h : list.Named) (mem : task ∈ list.listed none) :
    list.find? task.id = some task := by
  obtain ⟨key, found⟩ := mem_listed.mp mem
  rw [h.id_eq found]
  exact found

/-- If the listed identifiers are different and each leads to its task, then every task is stored under its
own identifier. -/
theorem named_of_listed (distinct : ((list.listed none).map Task.id).Nodup)
    (got : ∀ task ∈ list.listed none, list.find? task.id = some task) : list.Named := by
  intro entry mem
  have found : list.find? entry.1 = some entry.2 := Keyed.find?_eq_some_iff.mpr mem
  have own := got entry.2 (mem_listed.mpr ⟨entry.1, found⟩)
  -- Stored under two keys, the task would be listed twice.
  by_contra other
  have second : (entry.2.id, entry.2) ∈ list.tasks.entries := Keyed.find?_eq_some_iff.mp own
  have ids : (list.tasks.entries.map fun entry => entry.2.id).Nodup := by
    have perm := (list.listed_perm.map Task.id).nodup_iff.mp distinct
    rwa [Keyed.values, List.map_map] at perm
  have same := List.inj_on_of_nodup_map ids second mem rfl
  exact other (congrArg Prod.fst same)

/-- Some tasks with a new one in place of an old one. -/
def replaced (tasks : List Task) (old new : Task) : List Task :=
  tasks.map fun other => if other = old then new else other

/-- In such a list, a task put in place of a stored one takes its place in the listing. -/
theorem Named.listed_put (h : list.Named) (found : list.find? task.id = some task) {new : Task}
    (same : new.id = task.id) :
    (list.put task.id new).listed none = replaced (list.listed none) task new := by
  have values : (list.put task.id new).tasks.values =
      list.tasks.values.map fun other => if other = task then new else other := by
    have entries := Entries.put_of_mem new list.tasks.distinct (mem_keys_of_find? found)
    show (Entries.put task.id new list.tasks.entries).map Prod.snd = _
    rw [entries, Keyed.values, List.map_map, List.map_map]
    refine List.map_congr_left fun entry mem => ?_
    have own := h entry mem
    have stored : list.find? entry.1 = some entry.2 := Keyed.find?_eq_some_iff.mpr mem
    simp only [Function.comp_apply]
    by_cases key : entry.1 = task.id
    · rw [key, found] at stored
      cases stored
      rw [if_pos key, if_pos rfl]
    · have other : ¬ entry.2 = task := fun e => key (own.symm.trans (congrArg Task.id e))
      rw [if_neg key, if_neg other]
  have id (other : Task) : (if other = task then new else other).id = other.id := by
    split
    · next e => rw [same, e]
    · rfl
  rw [listed_none, listed_none, sorted, sorted, values, replaced]
  refine (List.map_mergeSort fun a _ b _ => ?_).symm
  simp only [id]

/-- What an update answers is what is stored then. -/
theorem find?_of_update {listId taskId : Text} {change : Change} {answer : Task}
    (changed : (list.update listId taskId change now).verdict = .changed after answer) :
    after.find? taskId = some answer := by
  unfold update at changed
  split at changed
  · cases changed
  · cases now <;> cases changed
    rw [find?_put, if_pos rfl]

/-- What a claim answers is what is stored then. -/
theorem find?_of_claim {listId taskId owner : Text} {answer : Task}
    (changed : (list.claim listId taskId owner now).verdict = .changed after answer) :
    after.find? taskId = some answer := by
  unfold claim at changed
  split at changed
  · cases changed
  · split at changed
    · cases changed
    · split at changed
      · cases now <;> cases changed
        rw [find?_put, if_pos rfl]
      · cases changed

/-- If what is answered is stored, and a task was put there, then that task is answered. -/
theorem answer_eq {verdict : Verdict Task} {key : Text} {new answer : Task}
    (left : verdict.left? = some (list.put key new)) (changed : verdict = .changed after answer)
    (stored : after.find? key = some answer) : answer = new := by
  rw [changed] at left
  obtain rfl : after = list.put key new := Option.some.inj left
  rw [find?_put, if_pos rfl] at stored
  exact (Option.some.inj stored).symm

/-- A new task has an identifier that is no key yet. -/
theorem CounterAhead.id_of_create (ahead : list.CounterAhead) {listId subject description : Text}
    {answer : Task} (changed : (list.create listId subject description now).verdict = .changed after answer) :
    answer.id ∉ list.tasks.keys := by
  rw [create_verdict] at changed
  split at changed
  · cases changed
  · split at changed
    · cases changed
    · next short =>
      cases changed
      exact ahead.notMem (Bool.eq_false_iff.mpr short)

end TaskList

namespace Site

/-- A listing of a list at a moment returns some tasks. -/
def Lists (site : Site) (moment : Moment) (listId : Text) (tasks : List Task) : Prop :=
  (site.outcome moment listId (.list none)).result = .ok tasks

/-- The identifiers of the tasks of a list identify them: the listed ones are different, each of them gets
its task, an update or a claim under it acts on that task alone, and a new task gets another one. -/
structure Identifies (site : Site) (listId : Text) : Prop where
  /-- The listed identifiers are different. -/
  distinct : ∀ moment tasks, site.Lists moment listId tasks → (tasks.map Task.id).Nodup
  /-- The task under a listed identifier is the listed task. -/
  got : ∀ moment tasks, site.Lists moment listId tasks → ∀ task ∈ tasks,
    (site.outcome moment listId (.get task.id)).result = .ok (some task)
  /-- An update puts the changed task in place of the listed task, and answers the changed task. -/
  updated : ∀ moment tasks, site.Lists moment listId tasks → ∀ task ∈ tasks, ∀ change,
    let outcome := site.outcome moment listId (.update task.id change)
    let new := (task.apply change).touched moment.clock.second
    (∃ after, outcome.store.lists.find? listId = some after ∧
      after.listed none = TaskList.replaced tasks task new) ∧
      ∀ answer, outcome.result = .ok answer → answer = new
  /-- A claim of a pending task puts the claimed task in place of the listed task, and answers the claimed
  task; or else the listing stays and there is no answer. -/
  claimed : ∀ moment tasks, site.Lists moment listId tasks → ∀ task ∈ tasks, ∀ owner,
    let outcome := site.outcome moment listId (.claim task.id owner)
    let new := (task.claimedBy owner).touched moment.clock.second
    ∃ after, outcome.store.lists.find? listId = some after ∧
      (task.status = .pending ∧ after.listed none = TaskList.replaced tasks task new ∧
          (∀ answer, outcome.result = .ok answer → answer = new) ∨
        after.listed none = tasks ∧ ∀ answer, outcome.result ≠ .ok answer)
  /-- A new task has an identifier that is not listed. -/
  created : ∀ moment tasks, site.Lists moment listId tasks → ∀ subject description task,
    (site.outcome moment listId (.create subject description)).result = .ok task →
    Task.id task ∉ tasks.map Task.id

variable {site : Site} {moment : Moment} {listId : Text} {path : Path} {list : TaskList}

/-- A listing shows the list that is opened. -/
theorem listing_eq :
    (site.outcome moment listId (.list none)).result =
      (site.store.openedList listId (moment.host site.disk)).map fun list => list.listed none :=
  Store.result_of_question fun _ _ => rfl

/-- A list that is listed is opened at that moment. -/
theorem openedList_of_listing {tasks : List Task}
    (listing : site.Lists moment listId tasks) :
    ∃ list, site.store.openedList listId (moment.host site.disk) = .ok list ∧
      list.listed none = tasks := by
  rw [Lists, listing_eq] at listing
  cases opened : site.store.openedList listId (moment.host site.disk) with
  | error failure =>
    rw [opened] at listing
    cases listing
  | ok list =>
    rw [opened] at listing
    cases listing
    exact ⟨list, rfl, rfl⟩

/-- A task that is looked for is found in the list that is opened. -/
theorem got_eq {taskId : Text} :
    (site.outcome moment listId (.get taskId)).result =
      (site.store.openedList listId (moment.host site.disk)).map fun list => list.find? taskId :=
  Store.result_of_question fun _ _ => rfl

/-- An update under the identifier of a task acts on that task. -/
theorem update_named (named : list.Named)
    (opened : site.store.openedList listId (moment.host site.disk) = .ok list) {task : Task}
    (mem : task ∈ list.listed none) (change : Change) :
    let outcome := site.outcome moment listId (.update task.id change)
    let new := (task.apply change).touched moment.clock.second
    (∃ after, outcome.store.lists.find? listId = some after ∧
      after.listed none = TaskList.replaced (list.listed none) task new) ∧
      ∀ answer, outcome.result = .ok answer → answer = new := by
  intro outcome new
  have found := named.find?_listed mem
  have same : new.id = task.id := TaskList.id_touched (task.apply change)
  have left : (list.update listId task.id change moment.clock.second).verdict.left? =
      some (list.put task.id new) := by
    rw [TaskList.update_left?, found]
    rfl
  have course := site.course moment listId (.update task.id change)
  have held := course.held opened
  refine ⟨⟨list.put task.id new, ?_, named.listed_put found same⟩, fun answer ok => ?_⟩
  · rw [held]
    exact congrArg (fun left => some (left.getD list)) left
  · obtain ⟨list', after, opened', changed⟩ := course.changed_of_ok rfl ok
    cases opened.symm.trans opened'
    exact TaskList.answer_eq left changed (TaskList.find?_of_update changed)

/-- A claim under the identifier of a task acts on that task, or is refused. -/
theorem claim_named (named : list.Named)
    (opened : site.store.openedList listId (moment.host site.disk) = .ok list) {task : Task}
    (mem : task ∈ list.listed none) (owner : Text) :
    let outcome := site.outcome moment listId (.claim task.id owner)
    let new := (task.claimedBy owner).touched moment.clock.second
    ∃ after, outcome.store.lists.find? listId = some after ∧
      (task.status = .pending ∧ after.listed none = TaskList.replaced (list.listed none) task new ∧
          (∀ answer, outcome.result = .ok answer → answer = new) ∨
        after.listed none = list.listed none ∧ ∀ answer, outcome.result ≠ .ok answer) := by
  intro outcome new
  have found := named.find?_listed mem
  have same : new.id = task.id := TaskList.id_touched (task.claimedBy owner)
  have claim : (list.claim listId task.id owner moment.clock.second).verdict.left? =
      if task.status = .pending ∧ list.incompleteDependencies task = [] then
        some (list.put task.id new)
      else none := by
    rw [TaskList.claim_left?, found]
    rfl
  have course := site.course moment listId (.claim task.id owner)
  have held := course.held opened
  have changed_of_ok (answer : Task) (ok : outcome.result = .ok answer) :
      ∃ after, (list.claim listId task.id owner moment.clock.second).verdict = .changed after answer := by
    obtain ⟨list', after, opened', changed⟩ := course.changed_of_ok rfl ok
    cases opened.symm.trans opened'
    exact ⟨after, changed⟩
  by_cases free : task.status = .pending ∧ list.incompleteDependencies task = []
  · rw [if_pos free] at claim
    refine ⟨list.put task.id new, ?_, .inl ⟨free.1, named.listed_put found same, fun answer ok => ?_⟩⟩
    · rw [held]
      exact congrArg (fun left => some (left.getD list)) claim
    · obtain ⟨after, changed⟩ := changed_of_ok answer ok
      exact TaskList.answer_eq claim changed (TaskList.find?_of_claim changed)
  · rw [if_neg free] at claim
    refine ⟨list, ?_, .inr ⟨rfl, fun answer ok => ?_⟩⟩
    · rw [held]
      exact congrArg (fun left => some (left.getD list)) claim
    · obtain ⟨after, changed⟩ := changed_of_ok answer ok
      rw [changed] at claim
      cases claim

/-- A new task gets an identifier that no listed task has. -/
theorem create_named (ahead : site.store.Ahead) (named : list.Named)
    (opened : site.store.openedList listId (moment.host site.disk) = .ok list)
    {subject description : Text} {task : Task}
    (ok : (site.outcome moment listId (.create subject description)).result = .ok task) :
    task.id ∉ (list.listed none).map Task.id := by
  obtain ⟨list', after, opened', changed⟩ :=
    (site.course moment listId (.create subject description)).changed_of_ok rfl ok
  cases opened.symm.trans opened'
  rw [named.ids_perm.mem_iff]
  exact (ahead.counterAhead opened).id_of_create changed

/-- While every task is stored under its own identifier, identifiers identify tasks. -/
theorem identifies_of_keeps (ahead : site.store.Ahead) (h : site.Keeps listId path TaskList.Named) :
    site.Identifies listId where
  distinct := by
    intro moment tasks lists
    obtain ⟨list, opened, rfl⟩ := openedList_of_listing lists
    rw [(h.opens opened).ids_perm.nodup_iff]
    exact list.tasks.distinct
  got := by
    intro moment tasks lists task mem
    obtain ⟨list, opened, rfl⟩ := openedList_of_listing lists
    have found := (h.opens opened).find?_listed mem
    rw [got_eq, opened, ← found]
    rfl
  updated := by
    intro moment tasks lists task mem change
    obtain ⟨list, opened, rfl⟩ := openedList_of_listing lists
    exact update_named (h.opens opened) opened mem change
  claimed := by
    intro moment tasks lists task mem owner
    obtain ⟨list, opened, rfl⟩ := openedList_of_listing lists
    exact claim_named (h.opens opened) opened mem owner
  created := by
    intro moment tasks lists subject description task ok
    obtain ⟨list, opened, rfl⟩ := openedList_of_listing lists
    exact create_named ahead (h.opens opened) opened ok

/-- If identifiers identify the tasks of a file that was not opened yet, every task in the file is stored
under its own identifier. -/
theorem named_of_identifies (absent : site.store.lists.find? listId = none)
    (named : site.store.filePath listId = .ok path) {bytes : List UInt8}
    (read : site.disk.read path = .ok bytes) (loaded : TaskList.load site.store.spare bytes = .ok list)
    (h : site.Identifies listId) : list.Named := by
  -- Where no log is kept, nothing can keep a file that loads from being opened.
  let moment : Moment := ⟨.ofInt 0, none, false⟩
  obtain ⟨entry, found⟩ : ∃ entry, Store.fetch site.store.spare listId path site.disk = .ok (list, entry) :=
    Store.fetch_of_load read loaded
  have opened : site.store.openedList listId (moment.host site.disk) = .ok list :=
    Store.openedList_of_fetch absent named found rfl
  have lists : site.Lists moment listId (list.listed none) := by
    rw [Lists, listing_eq, opened]
    rfl
  refine TaskList.named_of_listed (h.distinct moment _ lists) fun task mem => ?_
  have got := h.got moment _ lists task mem
  rw [got_eq, opened] at got
  exact Except.ok.inj got

/-- For a file that the store accepts, the identifiers of the tasks identify them in all runs in which
nobody else touches the file, with saves that fail anywhere and with restarts, exactly if every task in
the file is stored under its own identifier. The store accepts other files, too. -/
theorem identifies_iff_named (dataFolder : Path) (disk : Disk) (spare : Nat) (listId : Text) (path : Path)
    (bytes : List UInt8) (list : TaskList)
    (named : (opened dataFolder disk spare).store.filePath listId = .ok path)
    (read : disk.read path = .ok bytes) (loaded : TaskList.load spare bytes = .ok list) :
    (∀ events, (opened dataFolder disk spare).undisturbed listId events →
      ((opened dataFolder disk spare).run events).Identifies listId) ↔ list.Named := by
  constructor
  · intro h
    have start := h [] fun _ _ _ mem => nomatch mem
    exact named_of_identifies rfl named read loaded start
  · intro own events alone
    have ahead : (opened dataFolder disk spare).store.Ahead := Store.ahead_empty _ spare
    have keeps : (opened dataFolder disk spare).Keeps listId path TaskList.Named :=
      ⟨named, nofun, bytes, list, read, loaded, own⟩
    have preserves (event : Event) : event.preserves listId TaskList.Named := by
      cases event with
      | call moment other operation =>
        exact fun _ list now after _ named becomes => named.becomes becomes
      | restart => trivial
      | foreign change => trivial
    exact identifies_of_keeps (ahead_run ahead events)
      (keeps.run ahead (fun event _ => preserves event) (alone path named))

/-- A list with a task that carries another identifier than its key. -/
def misnamed : TaskList := ⟨3, .ofList [("1", .fresh "2" "s" "" 5)]⟩

/-- A disk with that list in a file. -/
def misnamedDisk : Disk :=
  ⟨[(["d"], .folder), (["d", "tasks"], .folder),
    (["d", "tasks", "l.json"], .file misnamed.saved)]⟩

/-- A file with a task under another key is accepted, and then not all identifiers identify tasks. -/
theorem identifies_iff_named_misnamed :
    misnamedDisk.read ⟨.here, ["d", "tasks", "l.json"]⟩ =
        .ok misnamed.saved ∧
      TaskList.load 0 misnamed.saved = .ok misnamed ∧
      ¬ ∀ events, (opened ⟨.here, ["d"]⟩ misnamedDisk 0).undisturbed "l" events →
        ((opened ⟨.here, ["d"]⟩ misnamedDisk 0).run events).Identifies "l" := by
  have read : misnamedDisk.read ⟨.here, ["d", "tasks", "l.json"]⟩ =
      .ok misnamed.saved := by decide +kernel
  have loaded : TaskList.load 0 misnamed.saved = .ok misnamed := by decide +kernel
  have wrong : ¬ misnamed.Named := by
    intro named
    exact absurd (named ("1", .fresh "2" "s" "" 5) (by decide)) (by decide)
  refine ⟨read, loaded, fun all => wrong ?_⟩
  exact (identifies_iff_named ⟨.here, ["d"]⟩ misnamedDisk 0 "l" _ _ misnamed rfl read loaded).mp all

end Site

end Taskboard
