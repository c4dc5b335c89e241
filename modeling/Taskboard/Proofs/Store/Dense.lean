import Taskboard.Proofs.Number.Decimal
import Taskboard.Proofs.Store.Assured
import Taskboard.Proofs.Store.Identity
import Taskboard.Proofs.Store.Snapshot

/-!
# Dense identifiers

A list that begins without a file has the numbers from one to below its counter as keys, in that order. A save
that fails takes the file behind the list in memory, and a restart brings the list back to the file. Both are
dense, each up to its own counter; the identifiers that a restart loses are handed out again.
-/

namespace Taskboard

open Disk

namespace TaskList

variable {list after : TaskList} {now : Except QuantityFault Int} {operation : Operation}

/-- The keys are the numbers from one to below the counter in this order, each with its own task. -/
structure Dense (list : TaskList) : Prop where
  /-- The counter starts at one. -/
  positive : 1 ≤ list.nextId
  /-- The keys in stored order. -/
  keys : list.tasks.keys = (List.range (list.nextId - 1)).map fun count => Decimal.natText (count + 1)
  /-- Every task is stored under its own identifier. -/
  named : list.Named
  /-- The numbers below the counter can be written. -/
  short : ∀ number < list.nextId, Decimal.tooLong number = false

/-- A list without tasks is dense. -/
theorem dense_empty : TaskList.empty.Dense where
  positive := Nat.le_refl 1
  keys := rfl
  named := nofun
  short := by
    intro number below
    obtain rfl : number = 0 := Nat.lt_one_iff.mp below
    exact (Decimal.length_ofNat_le_iff 0).mp (by decide)

/-- A task put in place of a stored one keeps a list dense. -/
theorem Dense.put (dense : list.Dense) {key : Text} {task replacement : Task}
    (found : list.find? key = some task) (named : (list.put key replacement).Named) :
    (list.put key replacement).Dense where
  positive := dense.positive
  keys := by
    have mem : key ∈ list.tasks.keys := mem_keys_of_find? found
    have keys := list.tasks.keys_put key replacement
    rw [if_pos mem] at keys
    exact keys.trans dense.keys
  named := named
  short := dense.short

/-- A new task takes the next number. -/
theorem Dense.grown (dense : list.Dense) (ahead : list.CounterAhead)
    (short : Decimal.tooLong list.nextId = false) {subject description : Text} {second : Int}
    (named : (list.grown subject description second).Named) :
    (list.grown subject description second).Dense where
  positive := Nat.le_add_left 1 list.nextId
  keys := by
    have new : Decimal.natText list.nextId ∉ list.tasks.keys := ahead.notMem short
    have keys := list.tasks.keys_put (Decimal.natText list.nextId)
      (.fresh (Decimal.natText list.nextId) subject description second)
    rw [if_neg new, dense.keys] at keys
    have next : list.nextId + 1 - 1 = list.nextId - 1 + 1 := by
      have := dense.positive
      omega
    have last : list.nextId - 1 + 1 = list.nextId := Nat.sub_add_cancel dense.positive
    show (list.tasks.put _ _).keys = (List.range (list.nextId + 1 - 1)).map _
    rw [keys, next, List.range_succ, List.map_append, List.map_singleton, last]
  named := named
  short := by
    intro number below
    rcases Nat.lt_succ_iff_lt_or_eq.mp below with earlier | rfl
    · exact dense.short number earlier
    · exact short

/-- Every change keeps a list dense. -/
theorem Dense.becomes (dense : list.Dense) (ahead : list.CounterAhead)
    (h : Becomes list now operation after) : after.Dense := by
  have named : after.Named := dense.named.becomes h
  cases h with
  | created shown short => exact dense.grown ahead short named
  | updated found => exact dense.put found named
  | claimed found pending free => exact dense.put found named

/-- The tasks of a dense list are stored in the order of their numbers. -/
theorem Dense.ordered (dense : list.Dense) :
    list.tasks.values.Pairwise fun a b => decide (Task.numericId a.id ≤ Task.numericId b.id) = true := by
  have ids : list.tasks.values.map Task.id = _ := dense.named.ids_values.trans dense.keys
  have increasing : (list.tasks.values.map Task.id).Pairwise fun a b => Task.numericId a ≤ Task.numericId b := by
    rw [ids, List.pairwise_map]
    refine List.pairwise_lt_range.imp_of_mem fun {a b} _ last less => ?_
    have below : b + 1 < list.nextId := by
      have := List.mem_range.mp last
      omega
    rw [Task.numericId_natText (dense.short (a + 1) (by omega)),
      Task.numericId_natText (dense.short (b + 1) below)]
    omega
  exact (List.pairwise_map.mp increasing).imp fun less => decide_eq_true less

/-- A dense list shows its tasks in the order in which they were made. -/
theorem Dense.listed (dense : list.Dense) : list.listed none = list.tasks.values := by
  rw [list.listed_of_ordered none dense.ordered]
  exact List.filter_eq_self.mpr fun _ _ => rfl

end TaskList

namespace Site

/-- No event makes a dense list sparse. -/
theorem preserves_dense (listId : Text) (event : Event) : event.preserves listId TaskList.Dense := by
  cases event with
  | call moment other operation => exact fun _ list now after ahead dense becomes => dense.becomes ahead becomes
  | restart => trivial
  | foreign change => trivial

/-- Identifiers are dense from one on: in every run of a new store, with saves that fail or break off anywhere
and with restarts, for a list without a file at the start whose file nobody else touches. The keys of the list
in memory are the numbers from one to below its counter, in stored order, each with its own task, and so are
those of the list in the file; a listing shows the tasks in that order. -/
theorem dense_ids (dataFolder : Path) (disk : Disk) (spare : Nat) (listId : Text) (events : List Event)
    (absent : ∀ path, (opened dataFolder disk spare).store.filePath listId = .ok path → disk.contents path = none)
    (alone : (opened dataFolder disk spare).undisturbed listId events) :
    let site := (opened dataFolder disk spare).run events
    (∀ list, site.store.lists.find? listId = some list → list.Dense) ∧
    (∀ path bytes, site.store.filePath listId = .ok path → site.disk.contents path = some bytes →
      ∃ list, TaskList.load spare bytes = .ok list ∧ list.Dense) ∧
    ∀ moment,
      (∀ list, site.store.openedList listId (moment.host site.disk) = .ok list → list.Dense) ∧
      (site.outcome moment listId (.list none)).result =
        (site.store.openedList listId (moment.host site.disk)).map fun list => list.tasks.values := by
  intro site
  have ahead : (opened dataFolder disk spare).store.Ahead := Store.ahead_empty _ spare
  have start : (opened dataFolder disk spare).Assures listId TaskList.Dense := by
    refine ⟨TaskList.dense_empty, nofun, fun path bytes list named stored loaded => ?_⟩
    cases (absent path named).symm.trans stored
  have assured : site.Assures listId TaskList.Dense :=
    start.run ahead (fun event _ => preserves_dense listId event) alone
  refine ⟨assured.memory, fun path bytes named stored => ?_, fun moment => ⟨fun _ => assured.opens, ?_⟩⟩
  · have named' := (filePath_run _ events listId).symm.trans named
    have snapshot := snapshot_run ahead named' (alone path named')
    cases last : (opened dataFolder disk spare).lastMoved listId events with
    | none =>
      rw [last] at snapshot
      cases (snapshot.contents.symm.trans stored).symm.trans (absent path named')
    | some list =>
      rw [last] at snapshot
      obtain ⟨bytes', read, loaded⟩ := snapshot
      cases stored.symm.trans (contents_of_read read)
      exact ⟨list, loaded, assured.file path bytes list named stored ((spare_run _ events).symm ▸ loaded)⟩
  · rw [listing_eq]
    cases opens : site.store.openedList listId (moment.host site.disk) with
    | error failure => rfl
    | ok list => exact congrArg Except.ok (assured.opens opens).listed

/-- A run in which one task is made, one is made and not saved, and after a restart one more is made and not saved. -/
def reissued : List Event :=
  [.call (.calm 5) "l" (.create "first" ""),
    .call ⟨.ofInt 6, some (.atOnce "no space left"), true⟩ "l" (.create "lost" ""), .restart,
    .call ⟨.ofInt 7, some ⟨"no space left", 1, some 9⟩, true⟩ "l" (.create "second" "")]

/-- The lost identifier is handed out again; memory is dense up to two then, and the file up to one. -/
theorem dense_ids_reissued :
    (∀ path, (opened ⟨.here, ["d"]⟩ .empty 0).store.filePath "l" = .ok path → Disk.empty.contents path = none) ∧
      (opened ⟨.here, ["d"]⟩ .empty 0).undisturbed "l" reissued ∧
      ∃ held stored bytes,
        ((opened ⟨.here, ["d"]⟩ .empty 0).run reissued).store.lists.find? "l" = some held ∧
        held.tasks.keys = (["1", "2"] : List Text) ∧ held.Dense ∧
        ((opened ⟨.here, ["d"]⟩ .empty 0).run reissued).disk.contents ⟨.here, ["d", "tasks", "l.json"]⟩ =
          some bytes ∧
        TaskList.load 0 bytes = .ok stored ∧ stored.tasks.keys = (["1"] : List Text) ∧ stored.Dense := by
  have absent (path : Path) (named : (opened ⟨.here, ["d"]⟩ .empty 0).store.filePath "l" = .ok path) :
      Disk.empty.contents path = none := by
    cases named
    decide +kernel
  have alone : (opened ⟨.here, ["d"]⟩ .empty 0).undisturbed "l" reissued := by
    intro path named event mem
    simp only [reissued, List.mem_cons, List.not_mem_nil, or_false] at mem
    rcases mem with rfl | rfl | rfl | rfl <;> trivial
  have dense := dense_ids ⟨.here, ["d"]⟩ .empty 0 "l" reissued absent alone
  have named : ((opened ⟨.here, ["d"]⟩ .empty 0).run reissued).store.filePath "l" =
      .ok ⟨.here, ["d", "tasks", "l.json"]⟩ := (filePath_run _ reissued "l").trans rfl
  have memory : (((opened ⟨.here, ["d"]⟩ .empty 0).run reissued).store.lists.find? "l").map
      (fun list => list.tasks.keys) = some (["1", "2"] : List Text) := by decide +kernel
  have file : (((opened ⟨.here, ["d"]⟩ .empty 0).run reissued).disk.contents
      ⟨.here, ["d", "tasks", "l.json"]⟩).map (fun bytes =>
        (TaskList.load 0 bytes).toOption.map fun list => list.tasks.keys) = some (some (["1"] : List Text)) := by
    decide +kernel
  obtain ⟨held, found, keys⟩ := Option.map_eq_some_iff.mp memory
  obtain ⟨bytes, contents, keys'⟩ := Option.map_eq_some_iff.mp file
  obtain ⟨stored, loaded, denseStored⟩ := dense.2.1 _ bytes named contents
  rw [loaded] at keys'
  exact ⟨absent, alone, held, stored, bytes, found, keys, dense.1 held found, contents, loaded,
    Option.some.inj keys', denseStored⟩

end Site

end Taskboard
