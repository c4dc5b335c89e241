import Taskboard.Proofs.Worker.Sweep

/-!
# Passes with nobody else about

Every pass that a worker makes with nobody else about is one of the passes over the list: however the handlers
end, whatever of it is saved, and whatever else changes meanwhile but the list, the desk and the clock. A
pass that is run goes through the candidates in the listing of the list as it is.
-/

namespace Taskboard.Worker

open Happening

variable {Finding : Type}

section

variable {Job Report : Type} {worker : Worker Job Report Finding}
  {drift : Workspace → Workspace → Prop} {before after : Workspace} {list : TaskList} {key : Text}
  {happenings : Chronicle Finding}

/-- Whether only such changes count as drift as let the list of a worker be. -/
def Undisturbed (worker : Worker Job Report Finding) (drift : Workspace → Workspace → Prop) : Prop :=
  ∀ before after, drift before after → Workspace.LetsBe worker.desk worker.listId before after

/-- That is so where nothing happens but changes that let the list be. -/
theorem undisturbed_letsBe (worker : Worker Job Report Finding) :
    worker.Undisturbed (Workspace.LetsBe worker.desk worker.listId) := fun _ _ drifted => drifted

/-- Whether a list is in memory at the desk of a worker. -/
def Sees (worker : Worker Job Report Finding) (workspace : Workspace) (list : TaskList) : Prop :=
  workspace.Holds worker.desk worker.listId list

/-- An entry is noted, and the list stays. -/
theorem ran_note (quiet : worker.Undisturbed drift) (sees : worker.Sees before list) {entry : Entry}
    {result : Except Interruption Unit}
    (ran : Script.Ran drift (note entry : Effort Task (HandlerEnd × Finding) Unit).run before happenings
      result after) : happenings = [] ∧ result = .ok () ∧ worker.Sees after list := by
  obtain ⟨now, drifted, rfl, rfl, rfl⟩ := ran
  have still := (quiet before now drifted).holds list sees
  refine ⟨rfl, ?_, still.record [entry]⟩
  show Except.mapError _ (now.host.notingAll [entry]) = _
  rw [Store.notingAll_of_dated still.dated]
  rfl

/-- What is done after an entry was noted. -/
theorem ran_noted {α : Type} (quiet : worker.Undisturbed drift) (sees : worker.Sees before list) {entry : Entry}
    {next : Unit → Effort Task (HandlerEnd × Finding) α} {result : Except Interruption α}
    (ran : Script.Ran drift (note entry >>= next).run before happenings result after) :
    ∃ middle, worker.Sees middle list ∧ Script.Ran drift (next ()).run middle happenings result after := by
  rcases Effort.ran_bind ran with ⟨early, late, reached, middle, noted, others, rfl⟩ | ⟨why, noted, -⟩
  · obtain ⟨rfl, -, sees⟩ := ran_note quiet sees noted
    exact ⟨middle, sees, others⟩
  · obtain ⟨-, failed, -⟩ := ran_note quiet sees noted
    cases failed

variable [Inhabited Finding]

/-- What is asked of the store is asked of it as it is then. -/
theorem ran_asked {α : Type} {operation : Operation}
    {next : Except Failure operation.Answer → Effort Task (HandlerEnd × Finding) α}
    {result : Except Interruption α}
    (ran : Script.Ran drift (worker.handingOut.ask operation >>= next).run before happenings result after) :
    ∃ now later, drift before now ∧
      happenings = replied ⟨operation, (now.perform worker.desk worker.listId operation).1⟩ :: later ∧
      Script.Ran drift (next (now.perform worker.desk worker.listId operation).1).run
        (now.perform worker.desk worker.listId operation).2 later result after := by
  rcases Effort.ran_bind ran with ⟨early, late, reached, middle, asked, others, rfl⟩ | ⟨why, asked, -⟩
  · obtain ⟨now, later, drifted, rfl, rfl, same, rfl⟩ := asked
    cases same
    exact ⟨now, late, drifted, rfl, others⟩
  · obtain ⟨now, later, drifted, -, -, failed, -⟩ := asked
    cases failed

/-- What comes of setting the status of a task that a worker has claimed: the task has it in memory, be that
saved or not. -/
inductive Sets (worker : Worker Job Report Finding) (list : TaskList) (key : Text) (task : Task) (status : Status)
    (after : Workspace) : Chronicle Finding → Except Interruption Bool → Prop where
  /-- It is saved, or it is not and that is expected. -/
  | ended (second : Int) (answer : Except Failure Task)
      (honest : answer = .ok (task.heldBy worker.owner status second) ∨
        ∃ failure, answer = .error failure ∧ failure.isFailedSave = true ∧ failure.isExpected = true)
      (sees : worker.Sees after (list.put key (task.heldBy worker.owner status second))) :
      Sets worker list key task status after [replied ⟨.update key (.toStatus status), answer⟩] (.ok answer.isOk)
  /-- The list cannot be put in its file. -/
  | unstored (second : Int) (what : Unstorable)
      (sees : worker.Sees after (list.put key (task.heldBy worker.owner status second))) :
      Sets worker list key task status after
        [replied ⟨.update key (.toStatus status), .error (.unstorable what)⟩]
        (.error (.unexpected (.unstorable what)))

/-- Setting the status of a claimed task. -/
theorem ran_setStatus (quiet : worker.Undisturbed drift) {task : Task} {first : Int}
    (sees : worker.Sees before (list.put key (task.heldBy worker.owner .inProgress first))) {status : Status}
    {what : Text} {result : Except Interruption Bool}
    (ran : Script.Ran drift (worker.handingOut.setStatus key status what).run before happenings result after) :
    worker.Sets list key task status after happenings result := by
  obtain ⟨now, later, drifted, rfl, others⟩ := ran_asked ran
  have sees := (quiet before now drifted).holds _ sees
  obtain ⟨second, shown⟩ := sees.dated.1
  have shown : now.clock.second = .ok second := shown
  have found : (list.put key (task.heldBy worker.owner .inProgress first)).find? key =
      some (task.heldBy worker.owner .inProgress first) := by
    rw [TaskList.find?_put, if_pos rfl]
  have sets := TaskList.update_found worker.listId second found (.toStatus status)
  rw [Task.touch_apply_heldBy, TaskList.put_put, ← shown] at sets
  have answer := sees.answer (.update key (.toStatus status))
  have reached := sees.perform (.update key (.toStatus status))
  rw [TaskList.attempt, sets] at answer reached
  rcases answer with saved | ⟨failure, unsaved, failed⟩
  · rw [saved] at others ⊢
    obtain ⟨rfl, rfl, rfl⟩ := others
    exact .ended _ _ (.inl rfl) reached
  · rw [unsaved] at others ⊢
    dsimp only at others
    cases expected : failure.isExpected with
    | true =>
      rw [if_pos expected] at others
      obtain ⟨middle, sees, rfl, rfl, rfl⟩ := ran_noted quiet reached others
      exact .ended _ _ (.inr ⟨failure, rfl, failed, expected⟩) sees
    | false =>
      obtain ⟨what, rfl⟩ := Failure.unstorable_of_isFailedSave failed expected
      obtain ⟨rfl, rfl, rfl⟩ := others
      exact .unstored _ what reached

/-- Setting a claimed task to completed. -/
theorem ran_complete (quiet : worker.Undisturbed drift) {task : Task} {first : Int}
    (sees : worker.Sees before (list.put key (task.heldBy worker.owner .inProgress first)))
    {result : Except Interruption Bool}
    (ran : Script.Ran drift (worker.handingOut.complete key).run before happenings result after) :
    worker.Sets list key task .completed after happenings result := by
  rcases Effort.ran_bind ran with ⟨early, late, reached, middle, set, others, rfl⟩ | ⟨why, set, rfl⟩
  · cases ran_setStatus quiet sees set with
    | ended second answer honest sees =>
      cases saved : answer.isOk with
      | false =>
        rw [saved] at others
        obtain ⟨rfl, rfl, rfl⟩ := others
        rw [← saved]
        exact .ended second answer honest sees
      | true =>
        rw [saved] at others
        obtain ⟨noted, sees, rfl, rfl, rfl⟩ := ran_noted quiet sees others
        rw [← saved]
        exact .ended second answer honest sees
  · exact ran_setStatus quiet sees set

/-- Setting a claimed task back to pending. -/
theorem ran_release (quiet : worker.Undisturbed drift) {task : Task} {first : Int}
    (sees : worker.Sees before (list.put key (task.heldBy worker.owner .inProgress first)))
    {result : Except Interruption Unit}
    (ran : Script.Ran drift (worker.handingOut.release key).run before happenings result after) :
    ∃ saved, worker.Sets list key task .pending after happenings saved ∧ result = saved.map fun _ => () := by
  obtain ⟨middle, sees, ran⟩ := ran_noted quiet sees ran
  rcases Effort.ran_bind ran with ⟨early, late, reached, middle', set, others, rfl⟩ | ⟨why, set, rfl⟩
  · obtain ⟨rfl, rfl, rfl⟩ := others
    rw [List.append_nil]
    exact ⟨_, ran_setStatus quiet sees set, rfl⟩
  · exact ⟨_, ran_setStatus quiet sees set, rfl⟩

/-- A task that is handed out is reported on. -/
theorem ran_handled (quiet : worker.Undisturbed drift) (sees : worker.Sees before list) (task : Task)
    {α : Type} {next : HandlerEnd × Finding → Effort Task (HandlerEnd × Finding) α}
    {result : Except Interruption α}
    (ran : Script.Ran drift (ExceptT.lift (worker.handingOut.handler task) >>= next : Effort _ _ α).run before
      happenings result after) :
    ∃ middle report later, worker.Sees middle list ∧ happenings = reported task report :: later ∧
      Script.Ran drift (next report).run middle later result after := by
  rcases Effort.ran_bind ran with ⟨early, late, reached, middle, handled, others, rfl⟩ | ⟨why, handled, -⟩
  · obtain ⟨now, reports, later, drifted, all, rfl, rfl, same, rfl⟩ := handled
    cases same
    obtain ⟨report, rfl⟩ := List.length_eq_one_iff.mp all
    exact ⟨middle, report, late, (quiet before middle drifted).holds list sees, rfl, others⟩
  · obtain ⟨now, reports, later, drifted, all, -, -, failed, -⟩ := handled
    cases failed

/-- A worker with a claimed task fares in one of the ways that come after a claim. -/
theorem ran_work (quiet : worker.Undisturbed drift) {task : Task} {second : Int}
    (own : task.id = key) (claimable : list.Claimable key task)
    (sees : worker.Sees before (list.put key (task.heldBy worker.owner .inProgress second)))
    {result : Except Interruption (Tally Finding)}
    (ran : Script.Ran drift (worker.handingOut.work (task.heldBy worker.owner .inProgress second)).run before
      happenings result after) :
    ∃ reached, worker.Sees after reached ∧
      Encounter worker.owner key list
        (replied ⟨.claim key worker.owner, .ok (task.heldBy worker.owner .inProgress second)⟩ :: happenings)
        result reached := by
  have own : (task.heldBy worker.owner .inProgress second).id = key := own
  obtain ⟨middle, ⟨handlerEnd, finding⟩, later, sees, rfl, others⟩ := ran_handled quiet sees _ ran
  cases handlerEnd with
  | cancelled =>
    obtain ⟨rfl, rfl, rfl⟩ := others
    exact ⟨_, sees, .cancelled second finding claimable⟩
  | raised =>
    dsimp only at others
    rw [own] at others
    rcases Effort.ran_bind others with ⟨early, late, nothing, last, released, rest, rfl⟩ | ⟨why, released, rfl⟩
    · obtain ⟨saved, sets, same⟩ := ran_release quiet sees released
      obtain ⟨rfl, rfl, rfl⟩ := rest
      rw [List.append_nil]
      cases sets with
      | ended second' answer honest sees =>
        exact ⟨_, sees, .settled second second' finding answer claimable rfl honest⟩
      | unstored second' what sees => cases same
    · obtain ⟨saved, sets, same⟩ := ran_release quiet sees released
      cases sets with
      | ended second' answer honest sees => cases same
      | unstored second' what sees =>
        cases same
        exact ⟨_, sees, .unsettled second second' finding what claimable rfl⟩
  | returned =>
    dsimp only at others
    rw [own] at others
    rcases Effort.ran_bind others with ⟨early, late, reached, last, completed, rest, rfl⟩ | ⟨why, completed, rfl⟩
    · obtain ⟨rfl, rfl, rfl⟩ := rest
      rw [List.append_nil]
      cases ran_complete quiet sees completed with
      | ended second' answer honest sees =>
        have returns : HandlerEnd.returned.settles? = some .completed := rfl
        have settled := Encounter.settled second second' finding answer claimable returns honest
        simp only [true_and] at settled
        exact ⟨_, sees, settled⟩
    · cases ran_complete quiet sees completed with
      | unstored second' what sees => exact ⟨_, sees, .unsettled second second' finding what claimable rfl⟩

/-- A worker fares with a candidate in one of the ways. -/
theorem ran_attempt (quiet : worker.Undisturbed drift) (named : list.Named) (sees : worker.Sees before list)
    {result : Except Interruption (Tally Finding)}
    (ran : Script.Ran drift (worker.handingOut.attempt key).run before happenings result after) :
    ∃ reached, worker.Sees after reached ∧ Encounter worker.owner key list happenings result reached := by
  obtain ⟨now, later, drifted, rfl, others⟩ := ran_asked ran
  have sees := (quiet before now drifted).holds _ sees
  obtain ⟨second, shown⟩ := sees.dated.1
  have shown : now.clock.second = .ok second := shown
  have answer := sees.answer (.claim key worker.handingOut.owner)
  have reached := sees.perform (.claim key worker.handingOut.owner)
  by_cases claimable : ∃ task, list.Claimable key task
  · obtain ⟨task, claimable⟩ := claimable
    have claims := claimable.claim worker.listId worker.handingOut.owner second
    rw [TaskList.attempt, shown, claims] at answer reached
    rcases answer with saved | ⟨failure, unsaved, failed⟩
    · rw [saved] at others ⊢
      exact ran_work quiet (named.id_eq claimable.1) claimable reached others
    · rw [unsaved] at others ⊢
      cases failure with
      | unkept how =>
        obtain ⟨last, sees, rfl, rfl, rfl⟩ := ran_noted quiet reached others
        exact ⟨_, sees, .unsaved second _ claimable failed rfl⟩
      | unstorable what =>
        obtain ⟨rfl, rfl, rfl⟩ := others
        exact ⟨_, reached, .unstored second what claimable⟩
      | _ => cases failed
  · have closed : ∀ task, ¬ list.Claimable key task := fun task claims => claimable ⟨task, claims⟩
    obtain ⟨failure, refused, refusal⟩ :=
      TaskList.claim_refused worker.listId worker.handingOut.owner second closed
    rw [TaskList.attempt, shown, refused] at answer reached
    dsimp only at answer
    rw [answer] at others ⊢
    cases failure with
    | notFound | notClaimable | blocked =>
      obtain ⟨last, sees, rfl, rfl, rfl⟩ := ran_noted quiet reached others
      exact ⟨_, sees, .refused _ refusal closed⟩
    | _ => cases refusal

/-- A worker sweeps over the candidates. -/
theorem ran_attemptAll (quiet : worker.Undisturbed drift) (named : list.Named) (sees : worker.Sees before list)
    {candidates : List Task} {result : Except Interruption (Tally Finding)}
    (ran : Script.Ran drift (worker.handingOut.attemptAll candidates).run before happenings result after) :
    ∃ reached, worker.Sees after reached ∧
      Sweep worker.owner candidates list happenings result reached := by
  induction candidates generalizing list before after happenings result with
  | nil =>
    obtain ⟨rfl, rfl, rfl⟩ := ran
    exact ⟨list, sees, .done list⟩
  | cons candidate rest ih =>
    rcases Effort.ran_bind ran with ⟨early, late, tally, middle, first, others, rfl⟩ | ⟨why, first, rfl⟩
    · obtain ⟨between, sees, encounter⟩ := ran_attempt quiet named sees first
      have named := encounter.named named
      rcases Effort.ran_bind others with ⟨early', late', tally', last, swept, ended, rfl⟩ | ⟨why, swept, rfl⟩
      · obtain ⟨reached, sees, sweep⟩ := ih named sees swept
        obtain ⟨rfl, rfl, rfl⟩ := ended
        rw [List.append_nil]
        exact ⟨reached, sees, .next encounter sweep⟩
      · obtain ⟨reached, sees, sweep⟩ := ih named sees swept
        exact ⟨reached, sees, .next encounter sweep⟩
    · obtain ⟨reached, sees, encounter⟩ := ran_attempt quiet named sees first
      exact ⟨reached, sees, .cut encounter⟩

/-- A pass with nobody else about is one of the passes. -/
theorem ran_pass (quiet : worker.Undisturbed drift) (named : list.Named)
    (shows : before.Shows worker.desk worker.listId list)
    {result : Except Interruption (Tally Finding)}
    (ran : Script.Ran drift worker.handingOut.pass.run before happenings result after) :
    ∃ reached, worker.Sees after reached ∧ Passed worker list happenings result reached := by
  obtain ⟨now, later, drifted, rfl, others⟩ := ran_asked ran
  have shows := (quiet before now drifted).shows list shows
  have answer : (now.perform worker.desk worker.listId (.list (some .pending))).1 =
      .ok (list.listed (some .pending)) := shows.answer (.list (some .pending))
  have reached : worker.Sees (now.perform worker.desk worker.listId (.list (some .pending))).2 list :=
    shows.perform (.list (some .pending))
  rw [answer] at others ⊢
  have same : worker.handingOut.batchLimit = worker.batchLimit := rfl
  dsimp only at others
  rw [same] at others
  cases limited : worker.batchLimit.toInt with
  | error fault =>
    rw [limited] at others
    obtain ⟨rfl, rfl, rfl⟩ := others
    exact ⟨list, reached, .unlimited fault limited⟩
  | ok limit =>
    rw [limited] at others
    obtain ⟨after, sees, sweep⟩ := ran_attemptAll quiet named reached others
    exact ⟨after, sees, .swept limited sweep⟩

/-- A pass that is run lists the pending tasks of the list as it is. -/
theorem run_listing (perform : Task → Workspace → (HandlerEnd × Finding) × Workspace)
    (sees : worker.Sees before list) :
    Script.run perform (worker.handingOut.ask (.list (some .pending))).run before =
      (.ok (.ok (list.listed (some .pending))),
        (before.perform worker.desk worker.listId (.list (some .pending))).2) := by
  have answer : (before.perform worker.desk worker.listId (.list (some .pending))).1 =
      .ok (list.listed (some .pending)) := sees.answer (.list (some .pending))
  rw [← answer]
  rfl

variable {limit : Int}

/-- Then it goes through the candidates. -/
theorem run_swept (perform : Task → Workspace → (HandlerEnd × Finding) × Workspace)
    (sees : worker.Sees before list) (limited : worker.batchLimit.toInt = .ok limit) :
    Script.run perform worker.handingOut.pass.run before =
      Script.run perform
        (worker.handingOut.attemptAll ((list.listed (some .pending)).take limit.toNat)).run
        (before.perform worker.desk worker.listId (.list (some .pending))).2 := by
  have same : worker.handingOut.batchLimit.toInt = .ok limit := limited
  rw [pass, Effort.run_bind, Script.run_bind, run_listing perform sees]
  dsimp only
  rw [same]

/-- That is what happens in it. -/
theorem witnessed_swept (perform : Task → Workspace → (HandlerEnd × Finding) × Workspace)
    (sees : worker.Sees before list) (limited : worker.batchLimit.toInt = .ok limit) :
    Script.witnessed perform worker.handingOut.pass.run before =
      replied ⟨.list (some .pending), .ok (list.listed (some .pending))⟩ ::
        Script.witnessed perform
          (worker.handingOut.attemptAll ((list.listed (some .pending)).take limit.toNat)).run
          (before.perform worker.desk worker.listId (.list (some .pending))).2 := by
  have answer : (before.perform worker.desk worker.listId (.list (some .pending))).1 =
      .ok (list.listed (some .pending)) := sees.answer (.list (some .pending))
  have same : worker.handingOut.batchLimit.toInt = .ok limit := limited
  have asked : Script.witnessed perform (worker.handingOut.ask (.list (some .pending))).run before =
      [replied ⟨.list (some .pending), .ok (list.listed (some .pending))⟩] := by
    rw [← answer]
    rfl
  rw [pass, Effort.run_bind, Script.witnessed_bind, run_listing perform sees, asked]
  dsimp only
  rw [same]
  rfl

end

/-! ### A worker whose handler always ends in one way -/

/-- Nobody does any jobs. -/
def nobody : Empty → Workspace → Unit × Workspace := fun job _ => nomatch job

/-- A worker whose handler does nothing and always ends in one way. -/
def ending (handlerEnd : HandlerEnd) : Worker Empty Unit Unit :=
  ⟨0, "l", "w", .whole 32, fun _ => .done (handlerEnd, ())⟩

/-- What its handler does. -/
def handling (handlerEnd : HandlerEnd) (task : Task) : Workspace → (HandlerEnd × Unit) × Workspace :=
  ((ending handlerEnd).handler task).run nobody

/-- Whatever it does, it does with nobody else about. -/
theorem ran_ending {α : Type} (handlerEnd : HandlerEnd) (effort : Effort Task (HandlerEnd × Unit) α)
    (workspace : Workspace) :
    Script.Ran (Workspace.LetsBe 0 "l") effort.run workspace
      (Script.witnessed (handling handlerEnd) effort.run workspace)
      (Script.run (handling handlerEnd) effort.run workspace).1
      (Script.run (handling handlerEnd) effort.run workspace).2 := by
  have still (task : Task) (workspace : Workspace) :
      Workspace.LetsBe 0 "l" workspace (handling handlerEnd task workspace).2 := .refl workspace
  exact (Workspace.LetsBe.allows still).ran _ _

/-- A desk with a list in memory, where saves may break off. -/
def offering (list : TaskList) (breakdown : Option Disk.Breakdown) : Workspace :=
  { Workspace.start (.ofInt 5) ⟨[(["d"], .folder)]⟩ 0 false with
    breakdown
    desks := [⟨default, ⟨⟨.here, ["d"]⟩, .ofList [("l", list)], 0⟩, "l", "l", "a"⟩] }

/-- The list is there. -/
theorem sees_offering (handlerEnd : HandlerEnd) (list : TaskList) (breakdown : Option Disk.Breakdown) :
    (ending handlerEnd).Sees (offering list breakdown) list := by
  have named : Store.isListId "l" = true := by decide
  exact ⟨⟨Nat.zero_lt_one, ⟨⟨5, rfl⟩, nofun⟩, ⟨_, if_pos named⟩, rfl⟩, rfl⟩

end Taskboard.Worker
