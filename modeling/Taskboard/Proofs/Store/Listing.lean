import Taskboard.Proofs.Store.Identity

/-!
# What a listing shows

A listing shows the stored tasks that are asked for, each as often as it is stored, by the numbers of their
identifiers; tasks with the same number, such as all those whose identifiers are no numbers, stand in stored order.
There is only one list of tasks of which this can be said. A listing of one status is the part of the whole listing
with that status, so that the listings of the three statuses share the whole one out among them.
-/

namespace Taskboard

namespace TaskList

variable {list : TaskList} {status : Option Status} {tasks other : List Task}

/-- The stored tasks that a listing is asked for, in stored order. -/
def asked (list : TaskList) (status : Option Status) : List Task :=
  list.tasks.values.filter fun task => status.all (task.status = ·)

/-- What a listing has to be, told from the stored tasks alone. -/
structure IsListing (list : TaskList) (status : Option Status) (tasks : List Task) : Prop where
  /-- Each task that is asked for is shown as often as it is stored, and nothing else is shown. -/
  complete : tasks.Perm (list.asked status)
  /-- The numbers of the identifiers do not fall. -/
  ordered : tasks.Pairwise fun a b => Task.numericId a.id ≤ Task.numericId b.id
  /-- Tasks with the same number stand in stored order. -/
  stable : ∀ number, (tasks.filter fun task => Task.numericId task.id = number) =
    (list.asked status).filter fun task => Task.numericId task.id = number

/-- That tasks stand in stored order need be seen only for the numbers that occur among them. -/
theorem isListing_iff : list.IsListing status tasks ↔ tasks.Perm (list.asked status) ∧
    (tasks.Pairwise fun a b => Task.numericId a.id ≤ Task.numericId b.id) ∧
    ∀ task ∈ tasks, (tasks.filter fun other => Task.numericId other.id = Task.numericId task.id) =
      (list.asked status).filter fun other => Task.numericId other.id = Task.numericId task.id := by
  constructor
  · exact fun listing => ⟨listing.complete, listing.ordered, fun task _ => listing.stable (Task.numericId task.id)⟩
  · rintro ⟨complete, ordered, stable⟩
    refine ⟨complete, ordered, fun number => ?_⟩
    by_cases occurs : ∃ task ∈ tasks, Task.numericId task.id = number
    · obtain ⟨task, mem, rfl⟩ := occurs
      exact stable task mem
    · have absent (task : Task) (mem : task ∈ tasks) : ¬ decide (Task.numericId task.id = number) = true :=
        fun same => occurs ⟨task, mem, of_decide_eq_true same⟩
      rw [List.filter_eq_nil_iff.mpr absent,
        List.filter_eq_nil_iff.mpr fun task mem => absent task (complete.mem_iff.mpr mem)]

instance : Decidable (list.IsListing status tasks) := decidable_of_iff _ isListing_iff.symm

/-- Of the tasks that are asked for, those with one number come out of the listing in stored order. -/
theorem filter_listed (list : TaskList) (status : Option Status) (number : Int) :
    ((list.listed status).filter fun task => Task.numericId task.id = number) =
      (list.asked status).filter fun task => Task.numericId task.id = number := by
  -- Tasks with one number are sorted among themselves, so that sorting all leaves them in their order.
  have sorted : (list.tasks.values.filter fun task => Task.numericId task.id = number).Pairwise
      fun a b => decide (Task.numericId a.id ≤ Task.numericId b.id) = true := by
    refine List.pairwise_iff_forall_sublist.mpr fun {a b} both => decide_eq_true ?_
    have first : Task.numericId a.id = number := of_decide_eq_true (List.mem_filter.mp (both.subset (by simp))).2
    have second : Task.numericId b.id = number := of_decide_eq_true (List.mem_filter.mp (both.subset (by simp))).2
    exact Int.le_of_eq (first.trans second.symm)
  have kept := (List.sublist_mergeSort numbered_trans numbered_total sorted List.filter_sublist).filter
    fun task => decide (Task.numericId task.id = number)
  have whole : (list.tasks.values.filter fun task => Task.numericId task.id = number) =
      list.sorted.filter fun task => Task.numericId task.id = number := by
    have length := ((List.mergeSort_perm list.tasks.values
      fun a b => decide (Task.numericId a.id ≤ Task.numericId b.id)).filter
        fun task => decide (Task.numericId task.id = number)).length_eq
    rw [List.filter_filter] at kept
    simp only [Bool.and_self] at kept
    exact kept.eq_of_length length.symm
  rw [listed, asked, List.filter_comm, ← whole, List.filter_comm]

/-- What a list shows is its listing. -/
theorem isListing_listed (list : TaskList) (status : Option Status) : list.IsListing status (list.listed status) where
  complete := (List.mergeSort_perm _ _).filter _
  ordered := list.listed_pairwise status
  stable := list.filter_listed status

/-- Tasks by their numbers are known once it is known which stand under each number, and in which order. -/
theorem eq_of_filter_eq (ordered : tasks.Pairwise fun a b => Task.numericId a.id ≤ Task.numericId b.id)
    (ordered' : other.Pairwise fun a b => Task.numericId a.id ≤ Task.numericId b.id)
    (same : ∀ number, (tasks.filter fun task => Task.numericId task.id = number) =
      other.filter fun task => Task.numericId task.id = number) : tasks = other := by
  have mem (task : Task) : task ∈ tasks ↔ task ∈ other := by
    have here := congrArg (task ∈ ·) (same (Task.numericId task.id))
    simpa using here
  induction tasks generalizing other with
  | nil =>
    cases other with
    | nil => rfl
    | cons task rest => exact absurd ((mem task).mpr List.mem_cons_self) List.not_mem_nil
  | cons task tasks ih =>
    cases other with
    | nil => exact absurd ((mem task).mp List.mem_cons_self) List.not_mem_nil
    | cons task' others =>
      -- Each of the two first tasks stands somewhere in the other list, so that neither number is greater.
      have le : Task.numericId task.id ≤ Task.numericId task'.id := by
        rcases List.mem_cons.mp ((mem task').mpr List.mem_cons_self) with rfl | later
        · exact Int.le_refl _
        · exact List.rel_of_pairwise_cons ordered later
      have ge : Task.numericId task'.id ≤ Task.numericId task.id := by
        rcases List.mem_cons.mp ((mem task).mp List.mem_cons_self) with rfl | later
        · exact Int.le_refl _
        · exact List.rel_of_pairwise_cons ordered' later
      have number : Task.numericId task'.id = Task.numericId task.id := Int.le_antisymm ge le
      have first : task = task' := by
        have heads := same (Task.numericId task.id)
        simp only [List.filter_cons, number, decide_true, if_true] at heads
        exact (List.cons.inj heads).1
      subst first
      have rest (number : Int) : (tasks.filter fun task => Task.numericId task.id = number) =
          others.filter fun task => Task.numericId task.id = number := by
        have both := same number
        simp only [List.filter_cons] at both
        split at both
        · exact (List.cons.inj both).2
        · exact both
      have mem' (task : Task) : task ∈ tasks ↔ task ∈ others := by
        have here := congrArg (task ∈ ·) (rest (Task.numericId task.id))
        simpa using here
      rw [ih ordered.of_cons ordered'.of_cons rest mem']

/-- There is one listing only. -/
theorem IsListing.unique (first : list.IsListing status tasks) (second : list.IsListing status other) :
    tasks = other :=
  eq_of_filter_eq first.ordered second.ordered fun number => (first.stable number).trans (second.stable number).symm

/-- A listing of one status is a part of the whole listing. -/
theorem listed_some (list : TaskList) (status : Status) :
    list.listed (some status) = (list.listed none).filter (·.status = status) := by
  rw [listed_none]
  rfl

/-- Tasks are shared out among the three statuses. -/
theorem perm_statuses (tasks : List Task) :
    (Status.all.flatMap fun status => tasks.filter (·.status = status)).Perm tasks := by
  induction tasks with
  | nil => rfl
  | cons task tasks ih =>
    simp only [Status.all, List.flatMap_cons, List.flatMap_nil, List.append_nil] at ih ⊢
    cases status : task.status with
    | pending => simpa [List.filter_cons, status] using ih
    | inProgress =>
      simp only [List.filter_cons, status, reduceCtorEq, decide_false, decide_true, if_true, Bool.false_eq_true,
        if_false]
      exact (List.perm_middle).trans (ih.cons task)
    | completed =>
      simp only [List.filter_cons, status, reduceCtorEq, decide_false, decide_true, if_true, Bool.false_eq_true,
        if_false]
      rw [← List.append_assoc] at ih ⊢
      exact (List.perm_middle).trans (ih.cons task)

end TaskList

namespace Store

/-- A listing of an opened list changes neither the list nor the disk. -/
theorem perform_list {store : Store} {listId : Text} {host : Host} {list : TaskList} (status : Option Status)
    (opened : store.openedList listId host = .ok list) :
    (store.perform listId (.list status) host).store = store.hold listId list ∧
      (store.perform listId (.list status) host).disk = host.disk := by
  have course := course_perform store listId (.list status) host
  generalize store.perform listId (.list status) host = outcome at course
  cases course with
  | unopened failure entries failed => cases opened.symm.trans failed
  | unchanged result entries opened' idle honest =>
    cases opened.symm.trans opened'
    exact ⟨rfl, rfl⟩
  | unsaved failure entries opened' left undated => cases left
  | saved entries opened' changed course => cases changed

end Store

namespace Site

/-- Whenever a list is opened, asking for its tasks of one status, or for all of them, is answered with its listing,
and with nothing else that could be called its listing; the list and the disk stay as they are. The listing of one
status is the part of the whole listing with that status, and the whole one is shared out among the three. -/
theorem listing_exact (site : Site) (moment : Moment) (listId : Text) (list : TaskList)
    (loaded : site.store.openedList listId (moment.host site.disk) = .ok list) :
    ∃ shown : Option Status → List Task,
      (∀ status, (site.outcome moment listId (.list status)).result = .ok (shown status) ∧
        (∀ tasks, list.IsListing status tasks ↔ tasks = shown status) ∧
        (site.outcome moment listId (.list status)).store = site.store.hold listId list ∧
        (site.outcome moment listId (.list status)).disk = site.disk) ∧
      (∀ status, shown (some status) = (shown none).filter (·.status = status)) ∧
      (Status.all.flatMap fun status => shown (some status)).Perm (shown none) := by
  refine ⟨list.listed, fun status => ⟨?_, fun tasks => ⟨?_, ?_⟩, Store.perform_list status loaded⟩,
    list.listed_some, ?_⟩
  · have answered : (site.outcome moment listId (.list status)).result =
        (site.store.openedList listId (moment.host site.disk)).map fun list => list.listed status :=
      Store.result_of_question fun _ _ => rfl
    rw [answered, loaded]
    rfl
  · exact fun listing => listing.unique (list.isListing_listed status)
  · rintro rfl
    exact list.isListing_listed status
  · simp only [TaskList.listed_some]
    exact TaskList.perm_statuses (list.listed none)

/-- A list with keys and identifiers of all kinds: two that are no numbers, one of them misnamed, one below zero, two
spellings of one number, and one number in digits of another script. -/
def motley : TaskList :=
  ⟨13, .ofList [("12", .fresh "12" "a" "" 5), ("x", .fresh "no" "b" "" 5), ("-3", .fresh "-3" "c" "" 5),
    ("2", { Task.fresh "2" "d" "" 5 with status := .completed }), ("", .fresh "" "e" "" 5),
    ("02", .fresh "02" "f" "" 5), ("٢", { Task.fresh "٢" "g" "" 5 with status := .inProgress })]⟩

/-- A store that has it in memory. -/
def motleySite : Site := ⟨⟨⟨.here, ["d", "tasks"]⟩, .ofList [("l", motley)], 0⟩, .empty⟩

/-- Its tasks by their numbers. -/
def ranked : List Task :=
  [.fresh "-3" "c" "" 5, .fresh "no" "b" "" 5, .fresh "" "e" "" 5,
    { Task.fresh "2" "d" "" 5 with status := .completed }, .fresh "02" "f" "" 5,
    { Task.fresh "٢" "g" "" 5 with status := .inProgress }, .fresh "12" "a" "" 5]

/-- Its whole listing starts with the number below zero and ends with the greatest one, and its pending tasks are a
part of that. -/
theorem listing_exact_motley :
    motleySite.store.openedList "l" ((Moment.calm 7).host motleySite.disk) = .ok motley ∧
      (motleySite.outcome (.calm 7) "l" (.list none)).result = .ok ranked ∧
      (motleySite.outcome (.calm 7) "l" (.list (some .pending))).result =
        .ok (ranked.filter (·.status = .pending)) := by
  have held : motleySite.store.lists.find? "l" = some motley := by decide +kernel
  have loaded : motleySite.store.openedList "l" ((Moment.calm 7).host motleySite.disk) = .ok motley :=
    Store.openedList_of_held held
  have listing : motley.IsListing none ranked := by decide +kernel
  obtain ⟨shown, answers, parts, -⟩ := listing_exact motleySite (.calm 7) "l" motley loaded
  obtain ⟨whole, exact, -⟩ := answers none
  have pending := (answers (some .pending)).1
  rw [parts .pending, ← (exact ranked).mp listing] at pending
  rw [← (exact ranked).mp listing] at whole
  exact ⟨loaded, whole, pending⟩

end Site

end Taskboard
