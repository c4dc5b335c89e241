import Taskboard.Proofs.Store.Run

/-!
# New identifiers

A new task is stored under the decimal text of the counter, which is past the number of every key, however
the keys are written. So nothing is replaced. A call that returns its task has brought the counter into
the file, past the number of that task; from then on memory and file agree that smaller numbers are used
up, whatever saves fail and however often the store is lost.
-/

namespace Taskboard

namespace TaskList

variable {list after : TaskList} {now : Except QuantityFault Int} {listId subject description : Text}

/-- An identifier that is handed out is no key. -/
theorem CounterAhead.find?_of_allocate? (ahead : list.CounterAhead) {id : Text} {counted : TaskList}
    (allocated : list.allocate? = some (id, counted)) : list.find? id = none := by
  rw [allocate?] at allocated
  split at allocated
  · cases allocated
  · next short =>
    cases allocated
    have new := ahead.notMem (Bool.eq_false_iff.mpr short)
    rw [← Keyed.find?_isSome_iff] at new
    exact Option.not_isSome_iff_eq_none.mp new

/-- Making a task takes the identifier that is handed out next. -/
theorem allocated_of_created (h : Becomes list now (.create subject description) after) :
    ∃ id counted second, list.allocate? = some (id, counted) ∧
      after = counted.put id (.fresh id subject description second) := by
  cases h with
  | @created _ _ second shown short =>
    refine ⟨Decimal.natText list.nextId, { list with nextId := list.nextId + 1 }, second, ?_, rfl⟩
    rw [allocate?, if_neg (Bool.eq_false_iff.mp short)]

/-- Making a task leaves the others where they are. -/
theorem CounterAhead.find?_created (ahead : list.CounterAhead)
    (h : Becomes list now (.create subject description) after) {key : Text} {task : Task}
    (found : list.find? key = some task) : after.find? key = some task := by
  cases h with
  | created shown short => exact ahead.find?_grown short found subject description _

/-- A new task has the number of the counter, which moves on. -/
theorem number_of_create {answer : Task}
    (changed : (list.create listId subject description now).verdict = .changed after answer) :
    Task.numericId answer.id = list.nextId ∧ after.nextId = list.nextId + 1 := by
  rw [create_verdict] at changed
  split at changed
  · cases changed
  · split at changed
    · cases changed
    · next short =>
      cases changed
      exact ⟨Task.numericId_natText (Bool.eq_false_iff.mpr short), rfl⟩

/-- The counter is past a number. -/
def Past (number : Int) (list : TaskList) : Prop := number < list.nextId

/-- No operation sets the counter back. -/
theorem Past.becomes {number : Int} (h : list.Past number) {operation : Operation}
    (becomes : Becomes list now operation after) : after.Past number := by
  cases becomes with
  | created shown short =>
    have moved : number < ((list.nextId + 1 : Nat) : Int) := by
      rw [Past] at h
      omega
    exact moved
  | updated found => exact h
  | claimed found pending free => exact h

end TaskList

namespace Site

/-- The new task of a list that an event returns. -/
def creates (site : Site) (listId : Text) : Event → Option Task
  | .call moment other (.create subject description) =>
    match (site.outcome moment other (.create subject description)).result with
    | .ok task => if other = listId then some task else none
    | .error _ => none
  | _ => none

/-- The new tasks of a list that a run returns, in order. -/
def created (listId : Text) (site : Site) : List Event → List Task
  | [] => []
  | event :: rest => (site.creates listId event).toList ++ created listId (site.advance event) rest

variable {site : Site} {listId : Text} {path : Path} {event : Event} {events : List Event} {task : Task}
  {number : Int}

/-- A new task is returned by a call that is answered. -/
theorem answered_of_creates (h : site.creates listId event = some task) :
    ∃ moment subject description, event = .call moment listId (.create subject description) ∧
      (site.outcome moment listId (.create subject description)).result = .ok task := by
  cases event with
  | restart => cases h
  | foreign change => cases h
  | call moment other operation =>
    cases operation with
    | create subject description =>
      simp only [creates] at h
      split at h
      · next answer result =>
        split at h
        · next same =>
          subst same
          cases h
          exact ⟨moment, subject, description, rfl, result⟩
        · cases h
      · cases h
    | _ => cases h

/-- While counters are past a number, a new task has a greater number. -/
theorem number_of_keeps (h : site.Keeps listId path (TaskList.Past number))
    (returned : site.creates listId event = some task) : number < Task.numericId task.id := by
  obtain ⟨moment, subject, description, rfl, answered⟩ := answered_of_creates returned
  obtain ⟨list, after, opened, changed⟩ :=
    (site.course moment listId (.create subject description)).changed_of_ok rfl answered
  have past : number < (list.nextId : Int) := h.opens opened
  rw [(TaskList.number_of_create changed).1]
  exact past

/-- After a new task was returned, counters are past its number, in memory and in the file. -/
theorem keeps_of_creates (ahead : site.store.Ahead) (returned : site.creates listId event = some task) :
    ∃ path, (site.advance event).Keeps listId path (TaskList.Past (Task.numericId task.id)) := by
  obtain ⟨moment, subject, description, rfl, answered⟩ := answered_of_creates returned
  have course := site.course moment listId (.create subject description)
  obtain ⟨list, after, opened, changed⟩ := course.changed_of_ok rfl answered
  refine keeps_of_answered ahead rfl answered fun list' held => ?_
  rw [course.held opened, changed] at held
  cases held
  obtain ⟨taken, moved⟩ := TaskList.number_of_create changed
  show Task.numericId task.id < (after.nextId : Int)
  rw [taken, moved]
  omega

/-- No event sets the counter back. -/
theorem preserves_past (event : Event) : event.preserves listId (TaskList.Past number) := by
  cases event with
  | call moment other operation => exact fun _ list now after _ past becomes => past.becomes becomes
  | restart => trivial
  | foreign change => trivial

/-- Once counters are past a number, all new tasks of a run have greater numbers. -/
theorem number_of_created (h : site.Keeps listId path (TaskList.Past number)) (ahead : site.store.Ahead)
    (alone : ∀ event ∈ events, event.sparesFile path) (mem : task ∈ site.created listId events) :
    number < Task.numericId task.id := by
  induction events generalizing site with
  | nil => cases mem
  | cons event events ih =>
    rcases List.mem_append.mp mem with first | later
    · exact number_of_keeps h (Option.mem_toList.mp first)
    · have stays := h.advance ahead (preserves_past event) (alone event List.mem_cons_self)
      exact ih stays (ahead_advance ahead event)
        (fun event mem => alone event (List.mem_cons_of_mem _ mem)) later

/-- The numbers of the new tasks of a run increase. -/
theorem created_increasing (ahead : site.store.Ahead) (alone : site.undisturbed listId events) :
    (site.created listId events).Pairwise fun first second =>
      Task.numericId first.id < Task.numericId second.id := by
  induction events generalizing site with
  | nil => exact .nil
  | cons event events ih =>
    have rest := ih (ahead_advance ahead event) alone.tail
    rw [created]
    cases returned : site.creates listId event with
    | none => exact rest
    | some task =>
      obtain ⟨path, keeps⟩ := keeps_of_creates ahead returned
      have after := alone.tail path keeps.named
      exact .cons (fun later mem => number_of_created keeps (ahead_advance ahead event) after mem) rest

/-- Making a task replaces none and hands out no identifier twice: in every run of a new store over any
files, with saves that fail anywhere and with restarts, if nobody else touches the file of the list. The
identifier that is handed out is no key at that moment, and every task in memory stays as it is. The new
tasks that calls return have increasing numbers over the whole run. Every file that is moved into place
loads again. -/
theorem create_fresh (dataFolder : Path) (disk : Disk) (spare : Nat) (listId : Text) (events : List Event)
    (alone : (opened dataFolder disk spare).undisturbed listId events) :
    let site := (opened dataFolder disk spare).run events
    (∀ moment list subject description,
      site.store.openedList listId (moment.host site.disk) = .ok list →
      (∀ id counted, list.allocate? = some (id, counted) → list.find? id = none) ∧
      ∃ after, (site.outcome moment listId (.create subject description)).store.lists.find? listId =
          some after ∧
        (after = list ∨ ∃ id counted second, list.allocate? = some (id, counted) ∧
          after = counted.put id (.fresh id subject description second)) ∧
        ∀ key task, list.find? key = some task → after.find? key = some task) ∧
    ((opened dataFolder disk spare).created listId events).Pairwise (fun first second =>
      Task.numericId first.id < Task.numericId second.id) ∧
    ∀ moment other operation, (site.outcome moment other operation).moved = true →
      ∃ path bytes list, site.store.filePath other = .ok path ∧
        (site.outcome moment other operation).disk.read path = .ok bytes ∧
        TaskList.load spare bytes = .ok list := by
  intro site
  have ahead := ahead_opened dataFolder disk spare events
  refine ⟨fun moment list subject description opened => ?_,
    created_increasing (Store.ahead_empty _ spare) alone, fun moment other operation moved => ?_⟩
  · have counter := ahead.counterAhead opened
    have held := (site.course moment listId (.create subject description)).held opened
    refine ⟨fun id counted => counter.find?_of_allocate?, _, held, ?_⟩
    cases left : (list.attempt listId (moment.host site.disk).clock.second
        (.create subject description)).verdict.left? with
    | none => exact ⟨.inl rfl, fun key task found => found⟩
    | some after =>
      have becomes := TaskList.becomes_of_left? left
      exact ⟨.inr (TaskList.allocated_of_created becomes),
        fun key task found => counter.find?_created becomes found⟩
  · obtain ⟨path, list, bytes, named, held, read, loaded⟩ :=
      (site.course moment other operation).load_of_moved ahead moved
    rw [spare_run] at loaded
    exact ⟨path, bytes, list, named, read, loaded⟩

/-- A list with tasks under keys that are no plain numbers. -/
def oddKeys : TaskList :=
  ⟨13, .ofList [(" +01_2 ", .fresh "a" "s" "" 5), ("x", .fresh "x" "t" "" 5), ("٣", .fresh "b" "u" "" 5)]⟩

/-- A disk with that list in a file. -/
def oddDisk : Disk :=
  ⟨[(["d"], .folder), (["d", "tasks"], .folder),
    (["d", "tasks", "l.json"], .file oddKeys.saved)]⟩

/-- A run in which one task is made, one is made but not saved, and after a restart one more is made. -/
def rolledBack : List Event :=
  [.call (.calm 5) "l" (.create "first" ""),
    .call ⟨.ofInt 6, some (.atOnce "no space left"), true⟩ "l" (.create "lost" ""), .restart,
    .call (.calm 7) "l" (.create "second" "")]

/-- A restart after a failed save hands out the lost identifier, and none that was returned. -/
theorem create_fresh_rolledBack :
    (opened ⟨.here, ["d"]⟩ oddDisk 0).undisturbed "l" rolledBack ∧
      ((opened ⟨.here, ["d"]⟩ oddDisk 0).created "l" rolledBack).map Task.id = (["13", "14"] : List Text) ∧
      ((opened ⟨.here, ["d"]⟩ oddDisk 0).created "l" rolledBack).Pairwise (fun first second =>
        Task.numericId first.id < Task.numericId second.id) := by
  have alone : (opened ⟨.here, ["d"]⟩ oddDisk 0).undisturbed "l" rolledBack := by
    intro path named event mem
    simp only [rolledBack, List.mem_cons, List.not_mem_nil, or_false] at mem
    rcases mem with rfl | rfl | rfl | rfl <;> trivial
  have ids : ((opened ⟨.here, ["d"]⟩ oddDisk 0).created "l" rolledBack).map Task.id = (["13", "14"] : List Text) := by
    decide +kernel
  exact ⟨alone, ids, (create_fresh ⟨.here, ["d"]⟩ oddDisk 0 "l" rolledBack alone).2.1⟩

end Site

end Taskboard
