import Taskboard.Proofs.Store.Run

/-!
# The file of a list is a snapshot

The file of a list holds the list as it was in memory when a file was last moved into place, or is still
what it was before. A save that fails, or breaks off anywhere, changes neither; the next change that is
answered brings everything that is in memory into the file.
-/

namespace Taskboard

open Disk

namespace Site

/-- The list that an event moves into place as the file of a list. -/
def moves (site : Site) (listId : Text) : Event → Option TaskList
  | .call moment other operation =>
    if other = listId ∧ (site.outcome moment other operation).moved = true then
      (site.outcome moment other operation).store.lists.find? listId
    else none
  | _ => none

/-- The list that was last moved into place as the file of a list in a run. -/
def lastMoved (listId : Text) (site : Site) : List Event → Option TaskList
  | [] => none
  | event :: rest => (lastMoved listId (site.advance event) rest).or (site.moves listId event)

/-- What the file at a path is, given the list that was last moved into place there: as it was before, or
that list. -/
def Snapshot (spare : Nat) (path : Path) (before after : Disk) : Option TaskList → Prop
  | none => Leaves path before after
  | some saved => ∃ bytes, after.read path = .ok bytes ∧ TaskList.load spare bytes = .ok saved

/-- What a new store may open, given the list that was last moved into place: that list, or what the file
held before, or the empty list where no file could be read before. -/
def Recalled (spare : Nat) (path : Path) (before : Disk) (list : TaskList) : Option TaskList → Prop
  | none =>
    (∃ bytes, before.contents path = some bytes ∧ TaskList.load spare bytes = .ok list) ∨
      list = .empty ∧ ∀ bytes, before.read path ≠ .ok bytes
  | some saved => list = saved

variable {site : Site} {moment : Moment} {listId : Text} {operation : Operation} {path : Path}
  {event : Event} {events : List Event}

/-- The path of a list is the same after an event. -/
theorem filePath_advance (site : Site) (event : Event) (listId : Text) :
    (site.advance event).store.filePath listId = site.store.filePath listId :=
  site.filePath_run [event] listId

/-- What is moved into place is read from the file. -/
theorem load_of_moves (ahead : site.store.Ahead) (named : site.store.filePath listId = .ok path)
    {list : TaskList} (moved : site.moves listId event = some list) :
    ∃ bytes, (site.advance event).disk.read path = .ok bytes ∧ TaskList.load site.store.spare bytes = .ok list := by
  cases event with
  | restart => cases moved
  | foreign change => cases moved
  | call moment other operation =>
    rw [moves] at moved
    split at moved
    · next here =>
      obtain ⟨rfl, done⟩ := here
      obtain ⟨path', list', bytes, named', held, read, loaded⟩ :=
        (site.course moment other operation).load_of_moved ahead done
      cases named.symm.trans named'
      cases held.symm.trans moved
      exact ⟨bytes, read, loaded⟩
    · cases moved

/-- An event that moves nothing into place leaves the file alone. -/
theorem leaves_of_moves (ahead : site.store.Ahead) (named : site.store.filePath listId = .ok path)
    (spares : event.sparesFile path) (still : site.moves listId event = none) :
    Leaves path site.disk (site.advance event).disk := by
  cases event with
  | restart => exact .refl path _
  | foreign change => exact spares site.disk
  | call moment other operation =>
    have course := site.course moment other operation
    by_cases same : listId = other
    · subst same
      cases moved : (site.outcome moment listId operation).moved with
      | false => exact course.leaves_of_not_moved moved named
      | true =>
        obtain ⟨path', list, bytes, -, held, -, -⟩ := course.load_of_moved ahead moved
        rw [moves, if_pos ⟨rfl, moved⟩, held] at still
        cases still
    · exact course.leaves_other same named

/-- The file holds what was last moved into place, or is as it was. -/
theorem snapshot_run (ahead : site.store.Ahead) (named : site.store.filePath listId = .ok path)
    (alone : ∀ event ∈ events, event.sparesFile path) :
    Snapshot site.store.spare path site.disk (site.run events).disk (site.lastMoved listId events) := by
  induction events generalizing site with
  | nil => exact .refl path site.disk
  | cons event events ih =>
    have later := ih (ahead_advance ahead event) ((site.filePath_advance event listId).trans named)
      fun event mem => alone event (List.mem_cons_of_mem _ mem)
    rw [site.spare_advance event] at later
    rw [lastMoved]
    cases last : (site.advance event).lastMoved listId events with
    | some list =>
      rw [last] at later
      exact later
    | none =>
      rw [last] at later
      cases moved : site.moves listId event with
      | none =>
        have first := leaves_of_moves ahead named (alone event List.mem_cons_self) moved
        exact Leaves.trans first later
      | some list =>
        obtain ⟨bytes, read, loaded⟩ := load_of_moves ahead named moved
        exact ⟨bytes, later.readable bytes read, loaded⟩

/-- The last event counts first. -/
theorem lastMoved_concat :
    site.lastMoved listId (events ++ [event]) =
      ((site.run events).moves listId event).or (site.lastMoved listId events) := by
  induction events generalizing site with
  | nil => exact (Option.or_none).symm
  | cons first events ih =>
    rw [List.cons_append, lastMoved, ih, lastMoved, Option.or_assoc]
    rfl

/-- What a new store opens is the list last moved into place, or comes from before. -/
theorem recalled_of_opens {disk after : Disk} {last : Option TaskList} {folder : Path} {spare : Nat}
    (named : Store.filePath ⟨folder, .empty, spare⟩ listId = .ok path)
    (snapshot : Snapshot spare path disk after last) {list : TaskList}
    (opened : Store.Opens ⟨folder, .empty, spare⟩ listId after list) : Recalled spare path disk list last := by
  cases opened with
  | inMemory held => cases held
  | fetched absent named' found =>
    cases named.symm.trans named'
    cases last with
    | none =>
      rcases Store.fetch_ok found with ⟨missing, rfl⟩ | ⟨bytes, read, loaded⟩
      · refine .inr ⟨rfl, fun bytes read => ?_⟩
        have still := snapshot.readable bytes read
        rw [missing] at still
        cases still
      · refine .inl ⟨bytes, ?_, loaded⟩
        rw [← snapshot.contents]
        exact contents_of_read read
    | some saved =>
      obtain ⟨bytes, read, loaded⟩ := snapshot
      rcases Store.fetch_ok found with ⟨missing, -⟩ | ⟨bytes', read', loaded'⟩
      · cases read.symm.trans missing
      · cases read.symm.trans read'
        cases loaded.symm.trans loaded'
        rfl

/-- In every run of a new store, with saves that fail or break off anywhere and with restarts, if nobody
else touches the file of a list: the file is what it was before, or loads to the list in memory when a
file was last moved into place; a change that is answered is moved into place, so that the file loads to
the list in memory then; and a new store opens the list that was last moved into place. -/
theorem durable_snapshot (dataFolder : Path) (disk : Disk) (spare : Nat) (listId : Text) (path : Path)
    (events : List Event)
    (named : (opened dataFolder disk spare).store.filePath listId = .ok path)
    (alone : (opened dataFolder disk spare).undisturbed listId events) :
    let site := (opened dataFolder disk spare).run events
    let last := (opened dataFolder disk spare).lastMoved listId events
    Snapshot spare path disk site.disk last ∧
    (∀ moment operation answer, operation.isChange = true →
      (site.outcome moment listId operation).result = .ok answer →
      ∃ list bytes, (site.outcome moment listId operation).store.lists.find? listId = some list ∧
        (site.outcome moment listId operation).disk.read path = .ok bytes ∧
        TaskList.load spare bytes = .ok list ∧
        (opened dataFolder disk spare).lastMoved listId (events ++ [.call moment listId operation]) =
          some list) ∧
    ∀ list, Store.Opens (.within dataFolder spare) listId site.disk list → Recalled spare path disk list last := by
  intro site last
  have ahead := ahead_opened dataFolder disk spare events
  have snapshot := snapshot_run (Store.ahead_empty _ spare) named (alone path named)
  refine ⟨snapshot, fun moment operation answer change answered => ?_,
    fun list opens => recalled_of_opens named snapshot opens⟩
  have course := site.course moment listId operation
  have moved := course.moved_of_ok change answered
  obtain ⟨path', list, bytes, named', held, read, loaded⟩ := course.load_of_moved ahead moved
  rw [filePath_run, named] at named'
  cases named'
  rw [spare_run] at loaded
  refine ⟨list, bytes, held, read, loaded, ?_⟩
  rw [lastMoved_concat, moves, if_pos ⟨rfl, moved⟩, held]
  rfl

/-- A run in which a task is made and the save of its claim breaks off with nine bytes written. -/
def brokenOff : List Event :=
  [.call (.calm 5) "l" (.create "s" ""),
    .call ⟨.ofInt 6, some ⟨"no space left", 1, some 9⟩, true⟩ "l" (.claim "1" "a")]

/-- A save that breaks off leaves the file as the save before made it, and the next change that is answered
brings what is in memory into the file. -/
theorem durable_snapshot_brokenOff :
    (opened ⟨.here, ["d"]⟩ .empty 0).store.filePath "l" = .ok ⟨.here, ["d", "tasks", "l.json"]⟩ ∧
      (opened ⟨.here, ["d"]⟩ .empty 0).undisturbed "l" brokenOff ∧
      Snapshot 0 ⟨.here, ["d", "tasks", "l.json"]⟩ .empty
        ((opened ⟨.here, ["d"]⟩ .empty 0).run brokenOff).disk (some (TaskList.empty.grown "s" "" 5)) ∧
      ∃ answer, (((opened ⟨.here, ["d"]⟩ .empty 0).run brokenOff).outcome (.calm 7) "l"
        (.create "t" "")).result = .ok answer ∧
      ∃ list, (opened ⟨.here, ["d"]⟩ .empty 0).lastMoved "l"
        (brokenOff ++ [.call (.calm 7) "l" (.create "t" "")]) = some list := by
  have named : (opened ⟨.here, ["d"]⟩ .empty 0).store.filePath "l" =
      .ok ⟨.here, ["d", "tasks", "l.json"]⟩ := rfl
  have alone : (opened ⟨.here, ["d"]⟩ .empty 0).undisturbed "l" brokenOff := by
    intro path named event mem
    rcases List.mem_cons.mp mem with rfl | mem
    · trivial
    · rw [List.mem_singleton.mp mem]
      trivial
  have moved : (opened ⟨.here, ["d"]⟩ .empty 0).lastMoved "l" brokenOff =
      some (TaskList.empty.grown "s" "" 5) := by decide +kernel
  have answered : (((opened ⟨.here, ["d"]⟩ .empty 0).run brokenOff).outcome (.calm 7) "l"
      (.create "t" "")).result.isOk = true := by decide +kernel
  have durable := durable_snapshot ⟨.here, ["d"]⟩ .empty 0 "l" _ brokenOff named alone
  have later := durable.2.1 (.calm 7) (.create "t" "")
  simp only [moved] at durable
  refine ⟨named, alone, durable.1, ?_⟩
  revert answered later
  cases (((opened ⟨.here, ["d"]⟩ .empty 0).run brokenOff).outcome (.calm 7) "l"
    (.create "t" "")).result with
  | error failure => exact fun answered => nomatch answered
  | ok answer =>
    intro answered later
    obtain ⟨list, bytes, -, -, -, last⟩ := later answer rfl rfl
    exact ⟨answer, rfl, list, last⟩

end Site

end Taskboard
