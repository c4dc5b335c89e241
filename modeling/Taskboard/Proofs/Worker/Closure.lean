import Taskboard.Proofs.Worker.Board
import Taskboard.Proofs.Worker.Pass

/-!
# Passes in a row

What a worker with a list for itself can complete is a least set: the tasks that are completed, and with them
every pending task all of whose dependencies are in the set. While saves succeed and its handler returns, a
pass completes tasks of this set only, and as long as it takes all pending tasks at a time it either completes
one more or finds none that can be claimed. So after as many passes as there are pending tasks the whole set is
completed, and every other task is as it was; a cycle, a missing identifier or a task in progress holds up
what waits for it for good.
-/

namespace Taskboard

namespace TaskList

variable {list now after : TaskList} {key owner : Text} {task : Task} {limit : Nat}

/-- Whether a task is completed, or pending with dependencies that all are so in their turn. -/
inductive Attainable (list : TaskList) : Text → Prop where
  /-- It is completed. -/
  | completed {key : Text} (stands : list.Stands key .completed) : Attainable list key
  /-- It is pending, and waits for such tasks only. -/
  | ready {key : Text} {task : Task} (found : list.find? key = some task) (pending : task.status = .pending)
      (free : ∀ dependency ∈ task.blockedBy, Attainable list dependency) : Attainable list key

/-- Whether no task can be claimed. -/
def Settled (list : TaskList) : Prop := ∀ key task, ¬ list.Claimable key task

/-- Whether every one of so many pending tasks waits for something, in the order of the listing. -/
def Stalled (list : TaskList) (limit : Nat) : Prop :=
  ∀ candidate ∈ (list.listed (some .pending)).take limit, list.incompleteDependencies candidate ≠ []

/-- How many tasks are pending. -/
def pendingCount (list : TaskList) : Nat := (list.listed (some .pending)).length

/-- The pending tasks of a listing. -/
theorem listed_pending (list : TaskList) :
    list.listed (some .pending) = (list.listed none).filter fun task => task.status = .pending := by
  rw [listed_none]
  rfl

/-- A task that can be claimed is listed as pending. -/
theorem Claimable.mem_listed (claimable : list.Claimable key task) : task ∈ list.listed (some .pending) := by
  rw [listed_pending]
  exact List.mem_filter.mpr ⟨TaskList.mem_listed.mpr ⟨key, claimable.1⟩, decide_eq_true claimable.2.1⟩

/-- Where tasks are stored under their own identifiers, a task that is listed as pending can be claimed under its
identifier exactly if it waits for nothing. -/
theorem Named.claimable_iff (named : list.Named) (mem : task ∈ list.listed (some .pending)) :
    (∃ claimed, list.Claimable task.id claimed) ↔ list.incompleteDependencies task = [] := by
  rw [listed_pending] at mem
  obtain ⟨listed, pending⟩ := List.mem_filter.mp mem
  have found := named.find?_listed listed
  constructor
  · rintro ⟨claimed, found', -, free⟩
    cases found.symm.trans found'
    exact free
  · exact fun free => ⟨task, found, of_decide_eq_true pending, free⟩

/-- If the pending tasks that are taken wait for something, none of them can be claimed. -/
theorem Stalled.closed (stalled : list.Stalled limit) (named : list.Named)
    (mem : task ∈ (list.listed (some .pending)).take limit) : ∀ claimed, ¬ list.Claimable task.id claimed := by
  intro claimed claimable
  exact stalled task mem ((named.claimable_iff (List.mem_of_mem_take mem)).mp ⟨claimed, claimable⟩)

/-- If all pending tasks are taken and wait for something, no task can be claimed. -/
theorem Stalled.settled (stalled : list.Stalled limit) (enough : list.pendingCount ≤ limit) : list.Settled := by
  intro key task claimable
  have all : (list.listed (some .pending)).take limit = list.listed (some .pending) :=
    List.take_of_length_le enough
  refine stalled task ?_ claimable.2.2
  rw [all]
  exact claimable.mem_listed

/-- A task waits for nothing if all its dependencies are completed. -/
theorem free_of_stands (completed : ∀ dependency ∈ task.blockedBy, list.Stands dependency .completed) :
    list.incompleteDependencies task = [] := by
  refine List.filter_eq_nil_iff.mpr fun dependency mem => ?_
  rw [isCompleted_iff.mpr (completed dependency mem)]
  exact Bool.false_ne_true

/-- A change that makes nothing pass a test, and that one element fails, leaves fewer that pass. -/
theorem countP_map_lt {α : Type} {test : α → Bool} {change : α → α} {x : α} {all : List α} (mem : x ∈ all)
    (before : test x = true) (after : test (change x) = false)
    (others : ∀ y, test (change y) = true → test y = true) :
    (all.map change).countP test < all.countP test := by
  have fewer (part : List α) : (part.map change).countP test ≤ part.countP test := by
    rw [List.countP_map]
    exact List.countP_mono_left fun y _ => others y
  obtain ⟨front, back, rfl⟩ := List.append_of_mem mem
  have ahead := fewer front
  have behind := fewer back
  have fails : ¬ test (change x) = true := by
    rw [after]
    exact Bool.false_ne_true
  rw [List.map_append, List.map_cons, List.countP_append, List.countP_append, List.countP_cons_of_pos before,
    List.countP_cons_of_neg fails]
  omega

/-- Where a pending task is completed, fewer are pending. -/
theorem pendingCount_put (named : list.Named) (claimable : list.Claimable key task) (owner : Text)
    (second : Int) :
    (list.put key (task.heldBy owner .completed second)).pendingCount < list.pendingCount := by
  obtain ⟨found, pending, -⟩ := claimable
  have own : task.id = key := named.id_eq found
  subst own
  have same : (task.heldBy owner .completed second).id = task.id := rfl
  have mem : task ∈ list.listed none := TaskList.mem_listed.mpr ⟨task.id, found⟩
  rw [pendingCount, pendingCount, listed_pending, listed_pending, named.listed_put found same, replaced,
    ← List.countP_eq_length_filter, ← List.countP_eq_length_filter]
  refine countP_map_lt mem (decide_eq_true pending) ?_ fun other still => ?_
  · rw [if_pos rfl]
    rfl
  · by_cases same : other = task
    · rw [same]
      exact decide_eq_true pending
    · rwa [if_neg same] at still

/-- How a list may be on the way from a start: a task is as it was, or it was pending and is completed, as only
attainable tasks are. -/
structure Within (list now : TaskList) : Prop where
  /-- Tasks are stored under their own identifiers. -/
  named : now.Named
  /-- Completed tasks are attainable. -/
  sound : ∀ key, now.Stands key .completed → list.Attainable key
  /-- A record that is not as it was is that of a task that was completed. -/
  record : ∀ key, now.find? key = list.find? key ∨ list.Stands key .pending ∧ now.Stands key .completed

namespace Within

/-- The start. -/
theorem start (named : list.Named) : list.Within list :=
  ⟨named, fun _ stands => .completed stands, fun _ => .inl rfl⟩

/-- One more task is completed. -/
theorem complete (within : list.Within now) (claimable : now.Claimable key task) (second : Int) :
    list.Within (now.put key (task.heldBy owner .completed second)) := by
  obtain ⟨found, pending, free⟩ := claimable
  have own : task.id = key := within.named.id_eq found
  have stored : (now.put key (task.heldBy owner .completed second)).Stands key .completed :=
    ⟨_, by rw [find?_put, if_pos rfl], rfl⟩
  have before : list.find? key = some task := by
    rcases within.record key with same | ⟨-, done⟩
    · exact same.symm.trans found
    · have stands : now.Stands key .pending := ⟨task, found, pending⟩
      cases stands.unique done
  have attainable : list.Attainable key :=
    .ready before pending fun dependency mem => within.sound dependency (stands_of_free free dependency mem)
  have elsewhere {other : Text} (ne : other ≠ key) :
      (now.put key (task.heldBy owner .completed second)).find? other = now.find? other := by
    rw [find?_put, if_neg ne]
  have stays {other : Text} (ne : other ≠ key) :
      (now.put key (task.heldBy owner .completed second)).Stands other .completed ↔
        now.Stands other .completed := by
    rw [Stands, Stands, elsewhere ne]
  refine ⟨?_, fun other done => ?_, fun other => ?_⟩
  · have named := within.named.put (task.heldBy owner .completed second)
    have same : (task.heldBy owner .completed second).id = key := own
    rwa [same] at named
  · by_cases same : other = key
    · rw [same]
      exact attainable
    · exact within.sound other ((stays same).mp done)
  · by_cases same : other = key
    · subst same
      exact .inr ⟨⟨task, before, pending⟩, stored⟩
    · rw [stays same, elsewhere same]
      exact within.record other

/-- Once no task can be claimed, every attainable task is completed. -/
theorem completed_of_settled (within : list.Within now) (settled : now.Settled)
    (attainable : list.Attainable key) : now.Stands key .completed := by
  induction attainable with
  | @completed key stands =>
    rcases within.record key with same | ⟨-, done⟩
    · rw [Stands, same]
      exact stands
    · exact done
  | @ready key task found pending free ih =>
    rcases within.record key with same | ⟨-, done⟩
    · exact absurd ⟨same.trans found, pending, free_of_stands ih⟩ (settled key task)
    · exact done

/-- No task can be claimed exactly if every attainable task is completed. -/
theorem settled_iff (within : list.Within now) :
    now.Settled ↔ ∀ key, now.Stands key .completed ↔ list.Attainable key := by
  refine ⟨fun settled key => ⟨within.sound key, within.completed_of_settled settled⟩, fun all key task claimable => ?_⟩
  obtain ⟨found, pending, free⟩ := claimable
  have waits : now.Stands key .pending := ⟨task, found, pending⟩
  rcases within.record key with same | ⟨-, done⟩
  · have attainable : list.Attainable key := .ready (same.symm.trans found) pending fun dependency mem =>
      within.sound dependency (stands_of_free free dependency mem)
    cases waits.unique ((all key).mpr attainable)
  · cases waits.unique done

end Within

end TaskList

/-- Whether something that happens is a reply that a save has failed. -/
def Happening.isFailedSave {Job Report : Type} : Happening Job Report → Bool
  | .replied reply => reply.isFailedSave
  | .reported _ _ => false

/-- Whether it is a handler that does not return. -/
def Happening.isCutShort {Finding : Type} : Happening Task (HandlerEnd × Finding) → Bool
  | .replied _ => false
  | .reported _ report => report.1 ≠ .returned

/-- Whether it is a task that is handled. -/
def Happening.isReport {Job Report : Type} : Happening Job Report → Bool
  | .replied _ => false
  | .reported _ _ => true

namespace Worker

open Happening TaskList

variable {Finding : Type} {owner key : Text} {list now after : TaskList}
  {happenings : Chronicle Finding} {result : Except Interruption (Tally Finding)}

/-- Whether all saves succeed and every handler returns. -/
def Smooth (happenings : Chronicle Finding) : Prop :=
  ∀ happening ∈ happenings, happening.isFailedSave = false ∧ happening.isCutShort = false

instance : DecidablePred (Smooth : Chronicle Finding → Prop) := fun happenings =>
  inferInstanceAs (Decidable (∀ happening ∈ happenings,
    happening.isFailedSave = false ∧ happening.isCutShort = false))

/-- It is smooth if nothing happens. -/
theorem smooth_nil : Smooth ([] : Chronicle Finding) := fun _ mem => absurd mem List.not_mem_nil

/-- Two courses one after the other are smooth if both are. -/
theorem smooth_append {early late : Chronicle Finding} :
    Smooth (early ++ late) ↔ Smooth early ∧ Smooth late := List.forall_mem_append

/-- A candidate that is met smoothly cannot be claimed, or it is completed. -/
theorem Encounter.smooth (encounter : Encounter owner key now happenings result after)
    (smooth : Smooth happenings) :
    (∃ tally, result = .ok tally) ∧ (after = now ∧ (∀ task, ¬ now.Claimable key task) ∨
      ∃ task second, now.Claimable key task ∧ after = now.put key (task.heldBy owner .completed second)) := by
  cases encounter with
  | refused failure refusal closed => exact ⟨⟨_, rfl⟩, .inl ⟨rfl, closed⟩⟩
  | unsaved second failure claimable failed expected =>
    have saved : failure.isFailedSave = false := (smooth _ List.mem_cons_self).1
    cases saved.symm.trans failed
  | unstored second what claimable => cases (smooth _ List.mem_cons_self).1
  | cancelled second finding claimable =>
    have returned := (smooth _ (List.mem_cons_of_mem _ List.mem_cons_self)).2
    cases returned
  | @settled task second second' finding handlerEnd status answer claimable settles saved =>
    have returned := (smooth _ (List.mem_cons_of_mem _ List.mem_cons_self)).2
    cases handlerEnd with
    | raised => cases returned
    | cancelled => cases returned
    | returned =>
      cases settles
      exact ⟨⟨_, rfl⟩, .inr ⟨task, second', claimable, rfl⟩⟩
  | @unsettled task second second' finding handlerEnd status what claimable settles =>
    have saved := (smooth _ (List.mem_cons_of_mem _ (List.mem_cons_of_mem _ List.mem_cons_self))).1
    cases saved

/-- A candidate that cannot be claimed is passed over. -/
theorem Encounter.passes_over (encounter : Encounter owner key now happenings result after)
    (closed : ∀ task, ¬ now.Claimable key task) :
    after = now ∧ result = .ok .empty ∧ Smooth happenings ∧
      ∀ happening ∈ happenings, happening.isReport = false := by
  cases encounter with
  | refused failure refusal closed =>
    refine ⟨rfl, rfl, List.forall_mem_singleton.mpr ⟨?_, rfl⟩, List.forall_mem_singleton.mpr rfl⟩
    cases failure with
    | notFound | notClaimable | blocked => rfl
    | _ => cases refusal
  | unsaved second failure claimable failed expected => exact absurd claimable (closed _)
  | unstored second what claimable => exact absurd claimable (closed _)
  | cancelled second finding claimable => exact absurd claimable (closed _)
  | settled second second' finding answer claimable settles saved => exact absurd claimable (closed _)
  | unsettled second second' finding what claimable settles => exact absurd claimable (closed _)

/-- A smooth sweep stays within what is attainable; either none of its candidates can be claimed and the list
stays as it is, or fewer tasks are pending afterwards. -/
theorem Sweep.smooth {candidates : List Task} (sweep : Sweep owner candidates now happenings result after)
    (smooth : Smooth happenings) (within : list.Within now) :
    (∃ tally, result = .ok tally) ∧ list.Within after ∧
      (after = now ∧ (∀ candidate ∈ candidates, ∀ task, ¬ now.Claimable candidate.id task) ∨
        after.pendingCount < now.pendingCount) := by
  induction sweep with
  | done now => exact ⟨⟨_, rfl⟩, within, .inl ⟨rfl, nofun⟩⟩
  | @next candidate rest now middle after early late tally result first others ih =>
    obtain ⟨before, later⟩ := smooth_append.mp smooth
    rcases (first.smooth before).2 with ⟨rfl, closed⟩ | ⟨task, second, claimable, rfl⟩
    · obtain ⟨⟨tally', rfl⟩, within, progress⟩ := ih later within
      refine ⟨⟨_, rfl⟩, within, ?_⟩
      rcases progress with ⟨same, others⟩ | less
      · exact .inl ⟨same, List.forall_mem_cons.mpr ⟨closed, others⟩⟩
      · exact .inr less
    · have fewer := pendingCount_put within.named claimable owner second
      obtain ⟨⟨tally', rfl⟩, within, progress⟩ := ih later (within.complete claimable second)
      refine ⟨⟨_, rfl⟩, within, .inr ?_⟩
      rcases progress with ⟨rfl, -⟩ | less
      · exact fewer
      · exact Nat.lt_trans less fewer
  | cut first =>
    obtain ⟨⟨tally, failed⟩, -⟩ := first.smooth smooth
    cases failed

/-- A sweep over candidates none of which can be claimed passes over all of them. -/
theorem Sweep.passes_over {candidates : List Task} (sweep : Sweep owner candidates now happenings result after)
    (closed : ∀ candidate ∈ candidates, ∀ task, ¬ now.Claimable candidate.id task) :
    after = now ∧ result = .ok .empty ∧ Smooth happenings ∧
      ∀ happening ∈ happenings, happening.isReport = false := by
  induction sweep with
  | done now => exact ⟨rfl, rfl, smooth_nil, fun _ mem => absurd mem List.not_mem_nil⟩
  | next first others ih =>
    obtain ⟨rfl, same, smooth, quiet⟩ := first.passes_over (closed _ List.mem_cons_self)
    cases same
    obtain ⟨rfl, rfl, smooth', quiet'⟩ := ih fun candidate mem => closed candidate (List.mem_cons_of_mem _ mem)
    exact ⟨rfl, rfl, smooth_append.mpr ⟨smooth, smooth'⟩, List.forall_mem_append.mpr ⟨quiet, quiet'⟩⟩
  | cut first =>
    obtain ⟨-, failed, -⟩ := first.passes_over (closed _ List.mem_cons_self)
    cases failed

section

variable {Job Report : Type} {worker : Worker Job Report Finding} {limit : Int}

/-- A smooth pass completes one more of the tasks that it takes, or each of them waits for something. -/
theorem Passed.smooth (passed : Passed worker now happenings result after) (smooth : Smooth happenings)
    (limited : worker.batchLimit.toInt = .ok limit) (within : list.Within now) :
    (∃ tally, result = .ok tally) ∧ list.Within after ∧
      (after = now ∧ now.Stalled limit.toNat ∨ after.pendingCount < now.pendingCount) := by
  cases passed with
  | unlimited fault unlimited => cases limited.symm.trans unlimited
  | @swept limit' happenings result after limited' sweep =>
    cases limited.symm.trans limited'
    have later : Smooth happenings := fun happening mem => smooth happening (List.mem_cons_of_mem _ mem)
    obtain ⟨done, within', progress⟩ := sweep.smooth later within
    refine ⟨done, within', ?_⟩
    rcases progress with ⟨same, closed⟩ | less
    · refine .inl ⟨same, fun candidate mem free => ?_⟩
      obtain ⟨task, claimable⟩ := (within.named.claimable_iff (List.mem_of_mem_take mem)).mpr free
      exact closed candidate mem task claimable
    · exact .inr less

/-- A pass passes over tasks each of which waits for something. -/
theorem Passed.passes_by (passed : Passed worker now happenings result after)
    (limited : worker.batchLimit.toInt = .ok limit) (named : now.Named) (stalled : now.Stalled limit.toNat) :
    after = now ∧ result = .ok .empty ∧ Smooth happenings ∧
      ∀ happening ∈ happenings, happening.isReport = false := by
  cases passed with
  | unlimited fault unlimited => cases limited.symm.trans unlimited
  | swept limited' sweep =>
    cases limited.symm.trans limited'
    obtain ⟨same, empty, smooth, quiet⟩ := sweep.passes_over fun candidate mem => stalled.closed named mem
    exact ⟨same, empty, List.forall_mem_cons.mpr ⟨⟨rfl, rfl⟩, smooth⟩, List.forall_mem_cons.mpr ⟨rfl, quiet⟩⟩

/-- Some passes in a row, unless one is interrupted, and what came of each. -/
def passes (worker : Worker Job Report Finding) : Nat → Effort Job Report (List (Tally Finding))
  | 0 => pure []
  | count + 1 => do
    let first ← worker.pass
    let others ← worker.passes count
    return first :: others

/-- Passes in a row that hand tasks out become those of the worker when its handler does what they hand out. -/
theorem fills_passes [Inhabited Finding] (worker : Worker Job Report Finding) (count : Nat) :
    Effort.Fills worker.handler (worker.passes count) (worker.handingOut.passes count) := by
  induction count with
  | zero => rfl
  | succ count ih => exact Effort.Fills.bind worker.fills_pass fun first => Effort.Fills.bind ih fun others => rfl

/-- Passes in a row with nobody else about are passes that hand their tasks out to the handler. -/
theorem run_passes [Inhabited Finding] (perform : Job → Workspace → Report × Workspace)
    (worker : Worker Job Report Finding) (count : Nat) (workspace : Workspace) :
    Script.run perform (worker.passes count).run workspace =
      Script.run (fun task => (worker.handler task).run perform) (worker.handingOut.passes count).run workspace := by
  have fills : Script.fill worker.handler (worker.handingOut.passes count).run = (worker.passes count).run :=
    worker.fills_passes count
  rw [← fills, Script.run_fill]

variable [Inhabited Finding] {before reached : Workspace} {drift : Workspace → Workspace → Prop}

/-- Passes in a row are smooth if the first one is and the others are. -/
theorem smooth_passes (perform : Task → Workspace → (HandlerEnd × Finding) × Workspace) (count : Nat)
    {tally : Tally Finding}
    (first : Script.run perform worker.handingOut.pass.run before = (.ok tally, reached))
    (smooth : Smooth (Script.witnessed perform worker.handingOut.pass.run before))
    (others : Smooth (Script.witnessed perform (worker.handingOut.passes count).run reached)) :
    Smooth (Script.witnessed perform (worker.handingOut.passes (count + 1)).run before) := by
  rw [passes, Effort.run_bind, Script.witnessed_bind, first]
  dsimp only
  rw [Effort.run_bind, Script.witnessed_bind]
  refine smooth_append.mpr ⟨smooth, smooth_append.mpr ⟨others, ?_⟩⟩
  -- All that is left is to put the tallies together.
  rcases Script.run perform (worker.handingOut.passes count).run reached with ⟨tallies | interruption, after⟩
  · exact smooth_nil
  · exact smooth_nil

/-- Smooth passes in a row end where each of the tasks that are taken waits for something, if there are as many of
them as there are pending tasks; if that is so at their start, the list stays as it is. -/
theorem ran_passes (quiet : worker.Undisturbed drift)
    (limited : worker.batchLimit.toInt = .ok limit) {count : Nat}
    {result : Except Interruption (List (Tally Finding))}
    (shows : before.Shows worker.desk worker.listId now) (within : list.Within now)
    (many : now.Stalled limit.toNat ∨ now.pendingCount ≤ count)
    (ran : Script.Ran drift (worker.handingOut.passes count).run before happenings result reached)
    (smooth : Smooth happenings) :
    ∃ last, reached.Shows worker.desk worker.listId last ∧ list.Within last ∧ last.Stalled limit.toNat ∧
      (last = now ∨ ¬ now.Stalled limit.toNat ∧ last.pendingCount < now.pendingCount) ∧
      ∃ tallies, result = .ok tallies := by
  induction count generalizing now before happenings result with
  | zero =>
    obtain ⟨rfl, rfl, rfl⟩ := ran
    refine ⟨now, shows, within, ?_, .inl rfl, _, rfl⟩
    refine many.elim id fun none candidate mem => ?_
    have positive : 0 < now.pendingCount := List.length_pos_of_mem (List.mem_of_mem_take mem)
    omega
  | succ count ih =>
    rcases Effort.ran_bind ran with ⟨early, late, tally, middle, first, others, rfl⟩ | ⟨why, first, -⟩
    · obtain ⟨smooth, later⟩ := smooth_append.mp smooth
      obtain ⟨next, sees, passed⟩ := ran_pass quiet within.named shows first
      obtain ⟨-, within', progress⟩ := passed.smooth smooth limited within
      have progress : next = now ∧ now.Stalled limit.toNat ∨
          ¬ now.Stalled limit.toNat ∧ next.pendingCount < now.pendingCount := by
        by_cases stalled : now.Stalled limit.toNat
        · exact .inl ⟨(passed.passes_by limited within.named stalled).1, stalled⟩
        · exact .inr ⟨stalled, progress.resolve_left fun same => stalled same.2⟩
      have many' : next.Stalled limit.toNat ∨ next.pendingCount ≤ count := by
        rcases progress with ⟨rfl, stalled⟩ | ⟨moving, less⟩
        · exact .inl stalled
        · have many := many.resolve_left moving
          exact .inr (by omega)
      rcases Effort.ran_bind others with ⟨early', late', tallies, last, rest, ended, rfl⟩ | ⟨why, rest, -⟩
      · obtain ⟨rfl, rfl, rfl⟩ := ended
        obtain ⟨last, shows, within, stalled, further, -⟩ := ih sees.toShows within' many' rest
          (smooth_append.mp later).1
        refine ⟨last, shows, within, stalled, ?_, _, rfl⟩
        rcases progress with ⟨rfl, still⟩ | ⟨moving, less⟩
        · exact .inl (further.resolve_right fun moved => moved.1 still)
        · rcases further with rfl | ⟨-, less'⟩
          · exact .inr ⟨moving, less⟩
          · exact .inr ⟨moving, Nat.lt_trans less' less⟩
      · obtain ⟨-, -, -, -, -, tallies, failed⟩ := ih sees.toShows within' many' rest later
        cases failed
    · obtain ⟨next, sees, passed⟩ := ran_pass quiet within.named shows first
      obtain ⟨⟨tally, failed⟩, -⟩ := passed.smooth smooth limited within
      cases failed

end

/-- A worker that has a list for itself completes what can be completed. While saves succeed, its handler returns,
nothing else happens to the list, the desk and the clock, and it takes all pending tasks at a time, as many passes
in a row as there are pending tasks, or more, are not interrupted; the tasks completed then are the
attainable ones, and the records of all others are as they were, as are those of tasks completed before. Every
further pass returns nothing, calls no handler and leaves the list as it is. -/
theorem passes_close {Job Report : Type} [Inhabited Finding] (worker : Worker Job Report Finding) (limit : Int)
    (limited : worker.batchLimit.toInt = .ok limit) (workspace : Workspace) (list : TaskList)
    (shows : workspace.Shows worker.desk worker.listId list) (named : list.Named)
    (enough : ((list.listed (some .pending)).length : Int) ≤ limit) (count : Nat)
    (many : (list.listed (some .pending)).length ≤ count) (happenings : Chronicle Finding)
    (result : Except Interruption (List (Tally Finding))) (after : Workspace)
    (ran : Script.Ran (Workspace.LetsBe worker.desk worker.listId) (worker.handingOut.passes count).run workspace
      happenings result after) (smooth : Smooth happenings) :
    ∃ last, after.Shows worker.desk worker.listId last ∧ (∃ tallies, result = .ok tallies) ∧
      (∀ key, last.Stands key .completed ↔ list.Attainable key) ∧
      (∀ key, ¬ (list.Attainable key ∧ list.Stands key .pending) → last.find? key = list.find? key) ∧
      ∀ happenings' result' after',
        Script.Ran (Workspace.LetsBe worker.desk worker.listId) worker.handingOut.pass.run after happenings' result'
          after' →
        result' = .ok .empty ∧ (∀ happening ∈ happenings', happening.isReport = false) ∧
          after'.Shows worker.desk worker.listId last := by
  obtain ⟨last, shows, within, stalled, fewer, done⟩ :=
    ran_passes worker.undisturbed_letsBe limited shows (Within.start named) (.inr many) ran smooth
  have few : last.pendingCount ≤ limit.toNat := by
    have length : (list.listed (some .pending)).length = list.pendingCount := rfl
    rcases fewer with rfl | ⟨-, less⟩
    · omega
    · omega
  have settled : last.Settled := stalled.settled few
  refine ⟨last, shows, done, within.settled_iff.mp settled, ?_, ?_⟩
  · intro key other
    rcases within.record key with same | ⟨pending, completed⟩
    · exact same
    · exact absurd ⟨within.sound key completed, pending⟩ other
  · intro happenings' result' after' further
    obtain ⟨reached, sees, passed⟩ := ran_pass worker.undisturbed_letsBe within.named shows further
    obtain ⟨rfl, empty, -, unhandled⟩ := passed.passes_by limited within.named stalled
    exact ⟨empty, unhandled, sees.toShows⟩

/-- A task that waits for another one. -/
def waiting : Task := { Task.fresh "1" "s" "" 5 with blockedBy := ["2"] }

/-- That task, the one that it waits for, and one that somebody else works on. -/
def queue : TaskList :=
  ⟨4, .ofList [("1", waiting), ("2", .fresh "2" "s" "" 5),
    ("3", (Task.fresh "3" "s" "" 5).heldBy "v" .inProgress 5)]⟩

/-- The same once the second task is completed. -/
def shorter : TaskList := queue.put "2" ((Task.fresh "2" "s" "" 5).heldBy "w" .completed 5)

/-- Two of the tasks are pending at first. -/
theorem listed_queue : queue.listed (some .pending) = [waiting, .fresh "2" "s" "" 5] := by
  rw [TaskList.listed_of_ordered _ (by decide +kernel)]
  rfl

/-- Then one of them is. -/
theorem listed_shorter : shorter.listed (some .pending) = [waiting] := by
  rw [TaskList.listed_of_ordered _ (by decide +kernel)]
  rfl

/-- They are stored under their own identifiers. -/
theorem named_queue : queue.Named := by
  have named : ∀ entry ∈ queue.tasks.entries, entry.2.id = entry.1 := by decide
  exact named

/-- What the worker and its handler leave after the first pass. -/
def partway : Workspace :=
  (Script.run (handling .returned) (ending .returned).handingOut.pass.run (offering queue none)).2

/-- The first pass is an attempt at both pending tasks. -/
theorem run_queue : Script.run (handling .returned) (ending .returned).handingOut.pass.run (offering queue none) =
    Script.run (handling .returned)
      ((ending .returned).handingOut.attemptAll [waiting, .fresh "2" "s" "" 5]).run
      ((offering queue none).perform 0 "l" (.list (some .pending))).2 := by
  have swept := run_swept (handling .returned) (sees_offering .returned queue none) rfl
  rw [listed_queue] at swept
  exact swept

/-- It completes the second one. -/
theorem run_partway : Script.run (handling .returned) (ending .returned).handingOut.pass.run (offering queue none) =
    (.ok ⟨["2"], [()]⟩, partway) := by
  have completed : (Script.run (handling .returned) (ending .returned).handingOut.pass.run
      (offering queue none)).1 = .ok ⟨["2"], [()]⟩ := by
    rw [run_queue]
    decide +kernel
  exact Prod.ext completed rfl

/-- The list is in memory then with that task completed. -/
theorem sees_partway : (ending .returned).Sees partway shorter := by
  obtain ⟨reached, sees, -⟩ := ran_pass (ending .returned).undisturbed_letsBe named_queue
    (sees_offering .returned queue none).toShows (ran_ending .returned _ _)
  have held : (partway.desk 0).store.lists.find? "l" = some shorter := by
    rw [partway, run_queue]
    decide +kernel
  have same : reached = shorter := Option.some.inj (sees.held.symm.trans held)
  rwa [same] at sees

/-- The second pass completes the task that is left. -/
theorem run_rest : ∃ after, Script.run (handling .returned) (ending .returned).handingOut.pass.run partway =
    (.ok ⟨["1"], [()]⟩, after) := by
  have swept := run_swept (handling .returned) sees_partway rfl
  rw [listed_shorter] at swept
  have completed : (Script.run (handling .returned) (ending .returned).handingOut.pass.run partway).1 =
      .ok ⟨["1"], [()]⟩ := by
    rw [swept, partway, run_queue]
    decide +kernel
  exact ⟨_, Prod.ext completed rfl⟩

/-- Both passes are smooth. -/
theorem smooth_queue : Smooth (Script.witnessed (handling .returned)
    ((ending .returned).handingOut.passes 2).run (offering queue none)) := by
  have first : Smooth (Script.witnessed (handling .returned) (ending .returned).handingOut.pass.run
      (offering queue none)) := by
    rw [witnessed_swept (handling .returned) (sees_offering .returned queue none) rfl, listed_queue]
    decide +kernel
  have second : Smooth (Script.witnessed (handling .returned) (ending .returned).handingOut.pass.run
      partway) := by
    rw [witnessed_swept (handling .returned) sees_partway rfl, listed_shorter, partway, run_queue]
    decide +kernel
  obtain ⟨after, rest⟩ := run_rest
  have once : Smooth (Script.witnessed (handling .returned) ((ending .returned).handingOut.passes 1).run
      partway) := smooth_passes (handling .returned) 0 rest second smooth_nil
  exact smooth_passes (handling .returned) 1 run_partway first once

/-- Two passes complete the first task after the second, and leave the third one to whoever works on it. -/
theorem passes_close_queue :
    ∃ last, (Script.run nobody ((ending .returned).passes 2).run (offering queue none)).2.Shows 0 "l" last ∧
      last.Stands "1" .completed ∧ last.find? "3" = queue.find? "3" := by
  have attainable : queue.Attainable "1" := by
    have found : queue.find? "2" = some (.fresh "2" "s" "" 5) := rfl
    have free : queue.Attainable "2" := .ready found rfl nofun
    have found : queue.find? "1" = some waiting := rfl
    exact .ready found rfl fun dependency mem => List.mem_singleton.mp mem ▸ free
  have held : ¬ (queue.Attainable "3" ∧ queue.Stands "3" .pending) := by
    rintro ⟨-, task, found, pending⟩
    have same : queue.find? "3" = some ((Task.fresh "3" "s" "" 5).heldBy "v" .inProgress 5) := rfl
    cases same.symm.trans found
    cases pending
  have few : (queue.listed (some .pending)).length = 2 := by
    rw [listed_queue]
    rfl
  rw [run_passes]
  obtain ⟨last, shows, -, closed, kept, -⟩ := passes_close (ending .returned) 32 rfl (offering queue none) queue
    (sees_offering .returned queue none).toShows named_queue (by rw [few]; decide) 2 (Nat.le_of_eq few) _ _ _
    (ran_ending .returned _ _) smooth_queue
  exact ⟨last, shows, (closed "1").mpr attainable, kept "3" held⟩

end Worker

end Taskboard
