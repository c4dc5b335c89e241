import Taskboard.Proofs.Store.Identity
import Taskboard.Proofs.Store.Restart

/-!
# Corrupt files are left alone

A file that is there and does not load blocks its list: whatever is asked of the list fails in the same
way, the store keeps nothing of it in memory, and so no save ever replaces the file. The calls on that list
could be left out of a run and nothing else would change. Once somebody else replaces the file by one that
loads, the list is what that file holds.
-/

namespace Taskboard

open Disk

namespace Store

variable {store : Store} {listId : Text} {list : TaskList} {operation : Operation} {host : Host}
  {path : Path} {failure : Failure}

/-- What opening a list with a faulty file fails with. -/
def faultFailure (path : Path) : TaskList.LoadFault → Failure
  | .notDocument (.tooDeep container) => .nestedTooDeep container
  | fault => .corrupt path.text (.load fault)

/-- A file that does not load is not fetched. -/
theorem fetch_of_fault {disk : Disk} {bytes : List UInt8} {fault : TaskList.LoadFault}
    (read : disk.read path = .ok bytes) (refused : TaskList.load store.spare bytes = .error fault) :
    fetch store.spare listId path disk = .error (faultFailure path fault) := by
  simp only [fetch, read, refused]
  split
  · next loaded => cases loaded
  · next container same =>
    cases same
    rfl
  · next other deep same =>
    cases same
    unfold faultFailure
    split
    · next container => exact absurd rfl (deep container)
    · rfl

/-- Where an entry can be noted, an operation on a list that loads from its file is the operation on that list
in memory. -/
theorem perform_of_fetch {entry : Entry} (absent : store.lists.find? listId = none)
    (named : store.filePath listId = .ok path) (found : fetch store.spare listId path host.disk = .ok (list, entry))
    (noted : host.noting = .ok ()) :
    let outcome := store.perform listId operation host
    let served := (store.hold listId list).perform listId operation host
    outcome.result = served.result ∧ outcome.store = served.store ∧ outcome.disk = served.disk := by
  intro outcome served
  have held : (store.hold listId list).lists.find? listId = some list := by
    rw [find?_hold, if_pos rfl]
  have first : outcome = { (store.hold listId list).settle listId list operation host with
      entries := [entry] ++ ((store.hold listId list).settle listId list operation host).entries } := by
    simp only [outcome, perform, lookUp, absent, named, keep, found, noted]
    rfl
  have second : served = (store.hold listId list).settle listId list operation host := by
    simp only [served, perform, lookUp, held, keep]
    rfl
  rw [first, second]
  exact ⟨rfl, rfl, rfl⟩

end Store

/-- Whether an event is not a call on a list. -/
def Event.elsewhere (listId : Text) : Event → Bool
  | .call _ other _ => other ≠ listId
  | _ => true

namespace Site

/-- What the calls of a run on all lists but one give back, in order. -/
def repliesElsewhere (listId : Text) (site : Site) : List Event → List Reply
  | [] => []
  | event :: rest =>
    (if event.elsewhere listId then site.replies [event] else []) ++
      repliesElsewhere listId (site.advance event) rest

/-- A list is not in memory, and its file is there and does not load. -/
structure Corrupt (site : Site) (listId : Text) (path : Path) (bytes : List UInt8)
    (fault : TaskList.LoadFault) : Prop where
  /-- The list is not in memory. -/
  absent : site.store.lists.find? listId = none
  /-- The file of the list. -/
  named : site.store.filePath listId = .ok path
  /-- What the file holds. -/
  read : site.disk.read path = .ok bytes
  /-- Why that is not a list. -/
  refused : TaskList.load site.store.spare bytes = .error fault

variable {site : Site} {moment : Moment} {listId : Text} {operation : Operation} {path : Path}
  {bytes : List UInt8} {fault : TaskList.LoadFault} {event : Event} {events : List Event}

namespace Corrupt

/-- The list cannot be opened. -/
theorem openedList (corrupt : site.Corrupt listId path bytes fault) (moment : Moment) :
    site.store.openedList listId (moment.host site.disk) = .error (Store.faultFailure path fault) := by
  have found : Store.fetch site.store.spare listId path site.disk = .error (Store.faultFailure path fault) :=
    Store.fetch_of_fault corrupt.read corrupt.refused
  simp only [Store.openedList, Store.lookUp, corrupt.absent, corrupt.named, Moment.host, found, Store.keep]

/-- A call on the list changes nothing. -/
theorem advance_own (corrupt : site.Corrupt listId path bytes fault) (moment : Moment)
    (operation : Operation) : site.advance (.call moment listId operation) = site := by
  obtain ⟨-, store, disk⟩ := Store.perform_of_unopened operation (corrupt.openedList moment)
  show (⟨_, _⟩ : Site) = ⟨site.store, site.disk⟩
  rw [outcome, store, disk]
  rfl

/-- Every event that spares the file leaves it as it is, and the list out of memory. -/
theorem advance (corrupt : site.Corrupt listId path bytes fault) (spares : event.sparesFile path) :
    (site.advance event).Corrupt listId path bytes fault := by
  have named : (site.advance event).store.filePath listId = .ok path := by
    rw [Store.filePath, folder_advance]
    exact corrupt.named
  have refused : TaskList.load (site.advance event).store.spare bytes = .error fault := by
    rw [spare_advance]
    exact corrupt.refused
  cases event with
  | restart => exact ⟨rfl, named, corrupt.read, refused⟩
  | foreign change =>
    exact ⟨corrupt.absent, named, (spares site.disk).readable bytes corrupt.read, refused⟩
  | call moment other operation =>
    by_cases same : listId = other
    · subst same
      rw [corrupt.advance_own moment operation]
      exact corrupt
    · have course := site.course moment other operation
      have leaves := course.leaves_other same corrupt.named
      exact ⟨(course.find?_other same).trans corrupt.absent, named, leaves.readable bytes corrupt.read,
        refused⟩

/-- So does a run of such events. -/
theorem run (corrupt : site.Corrupt listId path bytes fault)
    (alone : ∀ event ∈ events, event.sparesFile path) :
    (site.run events).Corrupt listId path bytes fault := by
  induction events generalizing site with
  | nil => exact corrupt
  | cons event events ih =>
    exact ih (corrupt.advance (alone event List.mem_cons_self))
      fun event mem => alone event (List.mem_cons_of_mem _ mem)

/-- The calls on the list can be left out of a run. -/
theorem run_elsewhere (corrupt : site.Corrupt listId path bytes fault)
    (alone : ∀ event ∈ events, event.sparesFile path) :
    site.run events = site.run (events.filter (Event.elsewhere listId)) ∧
      site.repliesElsewhere listId events = site.replies (events.filter (Event.elsewhere listId)) := by
  induction events generalizing site with
  | nil => exact ⟨rfl, rfl⟩
  | cons event events ih =>
    obtain ⟨sites, replies⟩ := ih (corrupt.advance (alone event List.mem_cons_self))
      fun event mem => alone event (List.mem_cons_of_mem _ mem)
    rw [repliesElsewhere, List.filter_cons]
    cases away : event.elsewhere listId with
    | true =>
      refine ⟨sites, ?_⟩
      rw [if_pos rfl, if_pos rfl, replies]
      cases event <;> rfl
    | false =>
      cases event with
      | restart => cases away
      | foreign change => cases away
      | call moment other operation =>
        have same : other = listId := by simpa [Event.elsewhere] using away
        subst same
        have still := corrupt.advance_own moment operation
        have first : site.run (.call moment other operation :: events) = site.run events :=
          congrArg (fun site : Site => site.run events) still
        rw [still] at sites replies
        rw [first, still]
        exact ⟨sites, replies⟩

end Corrupt

/-- A file that is there and does not load is never replaced by the store: in every run of calls, restarts and
changes from outside that spare the file, whatever was done before the list was first asked for. Every call
on the list fails with the one failure that belongs to the file, the file keeps its bytes, and the list is
not in memory. All other calls give back the same, and store and disk are the same, as if the calls on
the list had not been made. When somebody then replaces the file by one that loads, the next call on the
list is carried out on what that file holds. -/
theorem corrupt_quarantined (site : Site) (listId : Text) (path : Path) (bytes : List UInt8)
    (fault : TaskList.LoadFault) (corrupt : site.Corrupt listId path bytes fault) (events : List Event)
    (alone : ∀ event ∈ events, event.sparesFile path) :
    let after := site.run events
    (∀ moment operation,
      (after.outcome moment listId operation).result = .error (Store.faultFailure path fault)) ∧
    after.disk.read path = .ok bytes ∧
    after.store.lists.find? listId = none ∧
    after = site.run (events.filter (Event.elsewhere listId)) ∧
    site.repliesElsewhere listId events = site.replies (events.filter (Event.elsewhere listId)) ∧
    ∀ change bytes' list, (change after.disk).read path = .ok bytes' →
      TaskList.load site.store.spare bytes' = .ok list → ∀ moment operation,
      let mended := after.advance (.foreign change)
      Store.dated (moment.host mended.disk) →
        let outcome := mended.outcome moment listId operation
        let served := Site.outcome ⟨mended.store.hold listId list, mended.disk⟩ moment listId operation
        outcome.result = served.result ∧ outcome.store = served.store ∧ outcome.disk = served.disk := by
  intro after
  have still : after.Corrupt listId path bytes fault := corrupt.run alone
  obtain ⟨sites, replies⟩ := corrupt.run_elsewhere alone
  refine ⟨fun moment operation => ?_, still.read, still.absent, sites, replies, ?_⟩
  · exact (Store.perform_of_unopened operation (still.openedList moment)).1
  · intro change bytes' list read loaded moment operation mended dated
    obtain ⟨entry, found⟩ : ∃ entry, Store.fetch mended.store.spare listId path mended.disk =
        .ok (list, entry) := by
      rw [← site.spare_run events] at loaded
      exact Store.fetch_of_load read loaded
    exact Store.perform_of_fetch still.absent still.named found (Store.noting_of_dated dated)

/-- A task is got from the list in memory. -/
theorem got_of_held (site : Site) (moment : Moment) (taskId : Text) {list : TaskList}
    (held : site.store.lists.find? listId = some list) :
    (site.outcome moment listId (.get taskId)).result = .ok (list.find? taskId) := by
  rw [got_eq, Store.openedList_of_held held]
  rfl

/-- A list with one task. -/
def oneTask : TaskList := TaskList.empty.grown "s" "" 5

/-- A run around the file that is not a list: it is asked for, another list gets a task, the store is lost, and
somebody else writes the file of the other list. -/
def aroundCorrupt : List Event :=
  [.call (.calm 5) "k" (.create "s" ""), .call (.calm 6) "l" (.create "t" ""), .restart,
    .call (.calm 7) "k" (.list none),
    .foreign fun disk => (disk.write ⟨.here, ["d", "tasks", "l.json"]⟩ oneTask.saved).disk]

/-- The file that is not a list is replaced by that list. -/
def mend (disk : Disk) : Disk :=
  disk.put ["d", "tasks", "k.json"] (.file oneTask.saved)

/-- In that run the file keeps its byte, and once it is replaced a task is got from it. -/
theorem corrupt_quarantined_mended :
    let after := (opened ⟨.here, ["d"]⟩ corruptDisk 0).run aroundCorrupt
    let mended := after.advance (.foreign mend)
    (∀ event ∈ aroundCorrupt, event.sparesFile ⟨.here, ["d", "tasks", "k.json"]⟩) ∧
      after.disk.read ⟨.here, ["d", "tasks", "k.json"]⟩ = .ok [0x78] ∧
      (after.outcome (.calm 8) "k" (.get "1")).result.isOk = false ∧
      (mended.outcome (.calm 8) "k" (.get "1")).result = .ok (some (.fresh "1" "s" "" 5)) := by
  intro after mended
  obtain ⟨fault, refused⟩ : ∃ fault, TaskList.load 0 [0x78] = .error fault := ⟨_, rfl⟩
  have corrupt : (opened ⟨.here, ["d"]⟩ corruptDisk 0).Corrupt "k" ⟨.here, ["d", "tasks", "k.json"]⟩ [0x78]
      fault := ⟨rfl, rfl, by decide, refused⟩
  have apart : Apart ⟨.here, ["d", "tasks", "k.json"]⟩ [⟨.here, ["d", "tasks", "l.json"]⟩] := by
    intro place here file mem there
    rw [List.mem_singleton.mp mem] at there
    have same : ("k.json" : Text) = "l.json" :=
      @name_of_place? ⟨.here, ["d", "tasks"]⟩ _ _ _ (by decide) (by decide) here there
    exact absurd same (by decide)
  have alone : ∀ event ∈ aroundCorrupt, event.sparesFile ⟨.here, ["d", "tasks", "k.json"]⟩ := by
    simp only [aroundCorrupt, List.forall_mem_cons, List.not_mem_nil, false_implies, implies_true, and_true]
    exact ⟨trivial, trivial, trivial, trivial, fun disk => (changes_write disk _ _).spares.leaves apart⟩
  have loaded : TaskList.load 0 oneTask.saved = .ok oneTask := by decide +kernel
  have read : mended.disk.read ⟨.here, ["d", "tasks", "k.json"]⟩ =
      .ok oneTask.saved := by decide +kernel
  have dated : Store.dated ((Moment.calm 8).host mended.disk) := ⟨⟨8, rfl⟩, fun _ => ⟨_, rfl⟩⟩
  obtain ⟨fails, still, -, -, -, mends⟩ :=
    corrupt_quarantined _ "k" _ [0x78] fault corrupt aroundCorrupt alone
  have found : oneTask.find? "1" = some (.fresh "1" "s" "" 5) := by decide +kernel
  have held : (mended.store.hold "k" oneTask).lists.find? "k" = some oneTask := by
    rw [Store.find?_hold, if_pos rfl]
  refine ⟨alone, still, ?_, ?_⟩
  · rw [fails]
    rfl
  · have served := (mends mend _ oneTask read loaded (.calm 8) (.get "1") dated).1
    have got := got_of_held ⟨mended.store.hold "k" oneTask, mended.disk⟩ (.calm 8) "1" held
    rw [found] at got
    exact served.trans got

end Site

end Taskboard
