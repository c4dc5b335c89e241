import Taskboard.Proofs.Worker.Closure

/-!
# Tasks behind those that wait

A pass takes the first of the pending tasks, as many as the worker takes at a time, and only then finds out
which of them can be claimed. So it hands a task out exactly if one of those it took waits for nothing. As soon
as all of them wait, the worker is stuck there: every further pass takes the same ones, and a task behind them
that could be claimed is never tried.
-/

namespace Taskboard.Worker

open Happening TaskList

variable {Finding : Type} {owner key : Text} {list now after : TaskList}
  {happenings : Chronicle Finding} {result : Except Interruption (Tally Finding)}

/-- While saves succeed, a candidate is handed to the handler exactly if it can be claimed; otherwise it leaves
the list as it is. -/
theorem Encounter.handed (encounter : Encounter owner key now happenings result after)
    (saved : ∀ happening ∈ happenings, happening.isFailedSave = false) :
    (happenings.any isReport = true ∧ ∃ task, now.Claimable key task) ∨
      happenings.any isReport = false ∧ after = now ∧ ∀ task, ¬ now.Claimable key task := by
  cases encounter with
  | refused failure refusal closed => exact .inr ⟨rfl, rfl, closed⟩
  | unsaved second failure claimable failed expected =>
    have none : failure.isFailedSave = false := saved _ List.mem_cons_self
    cases none.symm.trans failed
  | unstored second what claimable => cases saved _ List.mem_cons_self
  | cancelled second finding claimable => exact .inl ⟨rfl, _, claimable⟩
  | settled second second' finding answer claimable settles settled => exact .inl ⟨rfl, _, claimable⟩
  | unsettled second second' finding what claimable settles => exact .inl ⟨rfl, _, claimable⟩

/-- While saves succeed, a sweep hands a task out exactly if one of its candidates can be claimed at its start.
What becomes claimable on the way does so after a task was handed out. -/
theorem Sweep.hands_out_iff {candidates : List Task} (sweep : Sweep owner candidates now happenings result after)
    (saved : ∀ happening ∈ happenings, happening.isFailedSave = false) :
    happenings.any isReport = true ↔ ∃ candidate ∈ candidates, ∃ task, now.Claimable candidate.id task := by
  induction sweep with
  | done now => exact ⟨nofun, nofun⟩
  | @next candidate rest now middle after early late tally result first others ih =>
    obtain ⟨before, later⟩ := List.forall_mem_append.mp saved
    rw [List.any_append]
    rcases first.handed before with ⟨handed, claimable⟩ | ⟨passed, rfl, closed⟩
    · rw [handed]
      exact ⟨fun _ => ⟨candidate, List.mem_cons_self, claimable⟩, fun _ => rfl⟩
    · rw [passed, Bool.false_or, ih later, List.exists_mem_cons_iff]
      exact (or_iff_right fun ⟨task, claimable⟩ => closed task claimable).symm
  | @cut candidate rest now after happenings interruption first =>
    rcases first.handed saved with ⟨handed, claimable⟩ | ⟨passed, -, closed⟩
    · exact ⟨fun _ => ⟨candidate, List.mem_cons_self, claimable⟩, fun _ => handed⟩
    · cases first with
      | unstored second what claimable => exact absurd claimable (closed _)
      | cancelled second finding claimable => exact absurd claimable (closed _)
      | unsettled second second' finding what claimable settles => exact absurd claimable (closed _)

section

variable {Job Report : Type} {worker : Worker Job Report Finding} {limit : Int}

/-- While saves succeed, a pass hands a task out exactly if one of the tasks that it takes waits for nothing. -/
theorem Passed.hands_out_iff (passed : Passed worker now happenings result after)
    (limited : worker.batchLimit.toInt = .ok limit) (named : now.Named)
    (saved : ∀ happening ∈ happenings, happening.isFailedSave = false) :
    happenings.any isReport = true ↔ ¬ now.Stalled limit.toNat := by
  cases passed with
  | unlimited fault unlimited => cases limited.symm.trans unlimited
  | @swept limit' happenings result after limited' sweep =>
    cases limited.symm.trans limited'
    have listing : (replied ⟨.list (some .pending), .ok (now.listed (some .pending))⟩ :: happenings).any isReport =
        happenings.any isReport := rfl
    rw [listing, sweep.hands_out_iff fun happening mem => saved happening (List.mem_cons_of_mem _ mem), Stalled]
    push Not
    refine exists_congr fun candidate => and_congr_right fun mem => ?_
    exact named.claimable_iff (List.mem_of_mem_take mem)

end

/-- Whether a worker with a list for itself makes headway depends on the tasks that it takes at a time. While
saves succeed, a pass hands a task out exactly if one of them waits for nothing. While its handler returns, too, as
many passes in a row as there are pending tasks, or more, end where each of the tasks that are taken waits for
something, and change nothing if that is so at the start; every further pass then returns nothing, calls no handler
and leaves the list as it is. The tasks that are completed then are all that can be completed exactly if nothing
that could be claimed is left behind. -/
theorem passes_stall {Job Report : Type} [Inhabited Finding] (worker : Worker Job Report Finding) (limit : Int)
    (limited : worker.batchLimit.toInt = .ok limit) (workspace : Workspace) (list : TaskList)
    (shows : workspace.Shows worker.desk worker.listId list) (named : list.Named) :
    (∀ (happenings : Chronicle Finding) result after,
      Script.Ran (Workspace.LetsBe worker.desk worker.listId) worker.handingOut.pass.run workspace happenings
        result after →
      (∀ happening ∈ happenings, happening.isFailedSave = false) →
      (happenings.any isReport = true ↔ ¬ list.Stalled limit.toNat)) ∧
    ∀ count (happenings : Chronicle Finding) result after, list.pendingCount ≤ count →
      Script.Ran (Workspace.LetsBe worker.desk worker.listId) (worker.handingOut.passes count).run workspace
        happenings result after →
      Smooth happenings →
      ∃ last, after.Shows worker.desk worker.listId last ∧ (∃ tallies, result = .ok tallies) ∧
        last.Stalled limit.toNat ∧ (list.Stalled limit.toNat → last = list) ∧
        ((∀ key, last.Stands key .completed ↔ list.Attainable key) ↔ last.Settled) ∧
        ∀ happenings' result' after',
          Script.Ran (Workspace.LetsBe worker.desk worker.listId) worker.handingOut.pass.run after happenings'
            result' after' →
          result' = .ok .empty ∧ (∀ happening ∈ happenings', happening.isReport = false) ∧
            after'.Shows worker.desk worker.listId last := by
  refine ⟨fun happenings result after ran saved => ?_, fun count happenings result after many ran smooth => ?_⟩
  · obtain ⟨reached, -, passed⟩ := ran_pass worker.undisturbed_letsBe named shows ran
    exact passed.hands_out_iff limited named saved
  · obtain ⟨last, shows, within, stalled, moved, done⟩ :=
      ran_passes worker.undisturbed_letsBe limited shows (Within.start named) (.inr many) ran smooth
    refine ⟨last, shows, done, stalled, fun still => moved.resolve_right fun moved => moved.1 still,
      within.settled_iff.symm, fun happenings' result' after' further => ?_⟩
    obtain ⟨reached, sees, passed⟩ := ran_pass worker.undisturbed_letsBe within.named shows further
    obtain ⟨rfl, empty, -, unhandled⟩ := passed.passes_by limited within.named stalled
    exact ⟨empty, unhandled, sees.toShows⟩

/-- A task that waits for one that is not there, and one that waits for nothing. -/
def behind : TaskList :=
  ⟨3, .ofList [("1", { Task.fresh "1" "s" "" 5 with blockedBy := ["9"] }), ("2", .fresh "2" "t" "" 5)]⟩

/-- A worker that takes one task at a time; its handler returns. -/
def oneByOne : Worker Empty Unit Unit := { ending .returned with batchLimit := .whole 1 }

/-- The one that waits is listed first. -/
theorem listed_behind : behind.listed (some .pending) =
    [{ Task.fresh "1" "s" "" 5 with blockedBy := ["9"] }, .fresh "2" "t" "" 5] := by
  rw [TaskList.listed_of_ordered _ (by decide +kernel)]
  rfl

theorem named_behind : behind.Named := by
  have named : ∀ entry ∈ behind.tasks.entries, entry.2.id = entry.1 := by decide
  exact named

theorem stalled_behind : behind.Stalled (1 : Int).toNat := by
  rw [Stalled, listed_behind]
  decide

theorem sees_behind : oneByOne.Sees (offering behind none) behind := sees_offering .returned behind none

/-- A pass over the list while it is in memory comes to nothing, smoothly, and leaves it there. -/
theorem passed_behind {workspace : Workspace} (sees : oneByOne.Sees workspace behind) :
    Smooth (Script.witnessed (handling .returned) oneByOne.handingOut.pass.run workspace) ∧
      ∃ after, Script.run (handling .returned) oneByOne.handingOut.pass.run workspace = (.ok .empty, after) ∧
        oneByOne.Sees after behind := by
  obtain ⟨reached, sees', passed⟩ := ran_pass oneByOne.undisturbed_letsBe named_behind sees.toShows
    (ran_ending .returned _ workspace)
  obtain ⟨rfl, empty, smooth, -⟩ := passed.passes_by rfl named_behind stalled_behind
  exact ⟨smooth, _, Prod.ext empty rfl, sees'⟩

/-- Two passes over the list are smooth. -/
theorem smooth_behind : Smooth (Script.witnessed (handling .returned) (oneByOne.handingOut.passes 2).run
    (offering behind none)) := by
  obtain ⟨first, middle, start, sees⟩ := passed_behind sees_behind
  obtain ⟨second, last, rest, -⟩ := passed_behind sees
  exact smooth_passes (handling .returned) 1 start first
    (smooth_passes (handling .returned) 0 rest second smooth_nil)

/-- A worker that takes one task at a time never comes to the task behind the one that waits: a pass hands nothing
out, and after two passes, as many as there are pending tasks, it is not completed, though it could be. -/
theorem passes_stall_behind :
    behind.Claimable "2" (.fresh "2" "t" "" 5) ∧
      (Script.witnessed (handling .returned) oneByOne.handingOut.pass.run (offering behind none)).any
        isReport = false ∧
      ∃ last, (Script.run (handling .returned) (oneByOne.handingOut.passes 2).run
          (offering behind none)).2.Shows 0 "l" last ∧ last.Stalled 1 ∧
        behind.Attainable "2" ∧ ¬ last.Stands "2" .completed := by
  have found : behind.find? "2" = some (.fresh "2" "t" "" 5) := rfl
  have free : behind.Claimable "2" (.fresh "2" "t" "" 5) := ⟨found, rfl, rfl⟩
  have few : behind.pendingCount = 2 := congrArg List.length listed_behind
  have stall := passes_stall oneByOne 1 rfl (offering behind none) behind
    sees_behind.toShows named_behind
  obtain ⟨last, shows, -, stalled, stays, -⟩ := stall.2 2 _ _ _ (Nat.le_of_eq few) (ran_ending .returned _ _)
    smooth_behind
  have saved : ∀ happening ∈ Script.witnessed (handling .returned) oneByOne.handingOut.pass.run
      (offering behind none), happening.isFailedSave = false :=
    fun happening mem => ((passed_behind sees_behind).1 happening mem).1
  have idle := mt (stall.1 _ _ _ (ran_ending .returned _ _) saved).mp (not_not_intro stalled_behind)
  refine ⟨free, Bool.eq_false_iff.mpr idle, last, shows, stalled, .ready found rfl nofun, ?_⟩
  rw [stays stalled_behind]
  rintro ⟨task, found', completed⟩
  cases found.symm.trans found'
  cases completed

end Taskboard.Worker
