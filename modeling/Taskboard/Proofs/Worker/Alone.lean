import Taskboard.Proofs.Store.Restart
import Taskboard.Proofs.Store.Unexpected
import Taskboard.Proofs.Worker.Crew

/-!
# Scripts with nobody else about

While a script goes on and nobody else asks the store for anything, the workspace may still change between
its steps: time passes, saves are refused for a while, jobs have effects of their own. `Script.Ran` says
how a script may go when such changes are of a given kind and jobs report whatever they like, and keeps what
happened. A script that is run with jobs of that kind goes one of these ways.
-/

namespace Taskboard

/-- What happens while a script goes on. -/
inductive Happening (Job Report : Type) where
  /-- The store replies to an operation. -/
  | replied (reply : Reply)
  /-- A job is done, and reported on. -/
  | reported (job : Job) (report : Report)

namespace Script

variable {Job Other Report Report' α β : Type} {drift : Workspace → Workspace → Prop}
  {before after : Workspace}

/-- Whether a script may go like this, from one workspace to another, while the workspace drifts: what
happens, and with which result. -/
def Ran (drift : Workspace → Workspace → Prop) : Script Job Report α → Workspace →
    List (Happening Job Report) → α → Workspace → Prop
  | .done result, before, happenings, reached, after =>
    happenings = [] ∧ reached = result ∧ after = before
  | .instant effect next, before, happenings, reached, after =>
    ∃ now, drift before now ∧ (next now).Ran drift (effect now) happenings reached after
  | .ask desk listId operation next, before, happenings, reached, after =>
    ∃ now later, drift before now ∧
      happenings = .replied ⟨operation, (now.perform desk listId operation).1⟩ :: later ∧
      (next (now.perform desk listId operation).1).Ran drift (now.perform desk listId operation).2 later
        reached after
  | .pause next, before, happenings, reached, after => next.Ran drift before happenings reached after
  | .handOut jobs next, before, happenings, reached, after =>
    ∃ now reports later, drift before now ∧ reports.length = jobs.length ∧
      happenings = List.zipWith Happening.reported jobs reports ++ later ∧
      (next reports).Ran drift now later reached after

/-- Of two scripts one after the other, the second goes on where the first ended. -/
theorem ran_bind {script : Script Job Report α} {f : α → Script Job Report β}
    {happenings : List (Happening Job Report)} {result : β}
    (ran : (script.bind f).Ran drift before happenings result after) :
    ∃ early late reached middle, script.Ran drift before early reached middle ∧
      (f reached).Ran drift middle late result after ∧ happenings = early ++ late := by
  induction script generalizing before happenings with
  | done reached => exact ⟨[], happenings, reached, before, ⟨rfl, rfl, rfl⟩, ran, rfl⟩
  | instant effect next ih =>
    obtain ⟨now, drifted, ran⟩ := ran
    obtain ⟨early, late, reached, middle, first, second, rfl⟩ := ih now ran
    exact ⟨early, late, reached, middle, ⟨now, drifted, first⟩, second, rfl⟩
  | ask desk listId operation next ih =>
    obtain ⟨now, later, drifted, rfl, ran⟩ := ran
    obtain ⟨early, late, reached, middle, first, second, rfl⟩ := ih _ ran
    exact ⟨_ :: early, late, reached, middle, ⟨now, early, drifted, rfl, first⟩, second, rfl⟩
  | pause next ih => exact ih ran
  | handOut jobs next ih =>
    obtain ⟨now, reports, later, drifted, all, rfl, ran⟩ := ran
    obtain ⟨early, late, reached, middle, first, second, rfl⟩ := ih _ ran
    exact ⟨_ ++ early, late, reached, middle, ⟨now, reports, early, drifted, all, rfl, first⟩, second,
      (List.append_assoc _ _ _).symm⟩

/-- What happens when a script is run and its jobs are done one after another. -/
def witnessed (perform : Job → Workspace → Report × Workspace) :
    Script Job Report α → Workspace → List (Happening Job Report)
  | .done _, _ => []
  | .instant effect next, workspace => (next workspace).witnessed perform (effect workspace)
  | .ask desk listId operation next, workspace =>
    let (answer, workspace) := workspace.perform desk listId operation
    .replied ⟨operation, answer⟩ :: (next answer).witnessed perform workspace
  | .pause next, workspace => next.witnessed perform workspace
  | .handOut jobs next, workspace =>
    let (reports, workspace) := inTurn perform jobs workspace
    List.zipWith Happening.reported jobs reports ++ (next reports).witnessed perform workspace

/-- Of two scripts one after the other, what happens in the second comes after what happens in the first. -/
theorem witnessed_bind (perform : Job → Workspace → Report × Workspace) (script : Script Job Report α)
    (f : α → Script Job Report β) (workspace : Workspace) :
    (script.bind f).witnessed perform workspace = script.witnessed perform workspace ++
      (f (script.run perform workspace).1).witnessed perform (script.run perform workspace).2 := by
  induction script generalizing workspace with
  | done result => rfl
  | instant effect next ih => exact ih workspace (effect workspace)
  | ask desk listId operation next ih => exact congrArg _ (ih _ _)
  | pause next ih => exact ih workspace
  | handOut jobs next ih => exact (congrArg _ (ih _ _)).trans (List.append_assoc _ _ _).symm

/-- Jobs that are done one after another are all reported on. -/
theorem length_inTurn (perform : Job → Workspace → Report × Workspace) (jobs : List Job)
    (workspace : Workspace) : (inTurn perform jobs workspace).1.length = jobs.length := by
  induction jobs generalizing workspace with
  | nil => rfl
  | cons job rest ih => exact congrArg Nat.succ (ih _)

/-- Whether nothing, and one change after another, count as drift, and so does what jobs do. -/
structure Allows (drift : Workspace → Workspace → Prop) (perform : Job → Workspace → Report × Workspace) :
    Prop where
  /-- Nothing need happen. -/
  refl : ∀ workspace, drift workspace workspace
  /-- Changes may follow one another. -/
  trans : ∀ first second third, drift first second → drift second third → drift first third
  /-- Jobs change nothing else. -/
  jobs : ∀ job workspace, drift workspace (perform job workspace).2

/-- Jobs that are done one after another change nothing but what may drift. -/
theorem Allows.inTurn {perform : Job → Workspace → Report × Workspace} (allows : Allows drift perform)
    (jobs : List Job) (workspace : Workspace) : drift workspace (inTurn perform jobs workspace).2 := by
  induction jobs generalizing workspace with
  | nil => exact allows.refl workspace
  | cons job rest ih => exact allows.trans _ _ _ (allows.jobs job workspace) (ih _)

/-- A script that is run goes one of the ways that it may go. -/
theorem Allows.ran {perform : Job → Workspace → Report × Workspace} (allows : Allows drift perform)
    (script : Script Job Report α) (workspace : Workspace) :
    script.Ran drift workspace (script.witnessed perform workspace) (script.run perform workspace).1
      (script.run perform workspace).2 := by
  induction script generalizing workspace with
  | done result => exact ⟨rfl, rfl, rfl⟩
  | instant effect next ih => exact ⟨workspace, allows.refl workspace, ih workspace (effect workspace)⟩
  | ask desk listId operation next ih =>
    exact ⟨workspace, _, allows.refl workspace, rfl, ih _ _⟩
  | pause next ih => exact ih workspace
  | handOut jobs next ih =>
    have all := length_inTurn perform jobs workspace
    exact ⟨_, _, _, allows.inTurn jobs workspace, all, rfl, ih _ _⟩

/-- Jobs that are done in order by scripts of their own are jobs done one after another. -/
theorem run_inOrder (perform : Other → Workspace → Report' × Workspace)
    (meaning : Job → Script Other Report' Report) (jobs : List Job) (workspace : Workspace) :
    (inOrder meaning jobs).run perform workspace =
      inTurn (fun job => (meaning job).run perform) jobs workspace := by
  induction jobs generalizing workspace with
  | nil => rfl
  | cons job rest ih =>
    rw [inOrder, run_bind, run_bind, ih]
    rfl

/-- A script that does its jobs itself comes to what it comes to when they are done for it. -/
theorem run_fill (perform : Other → Workspace → Report' × Workspace)
    (meaning : Job → Script Other Report' Report) (script : Script Job Report α) (workspace : Workspace) :
    (script.fill meaning).run perform workspace =
      script.run (fun job => (meaning job).run perform) workspace := by
  induction script generalizing workspace with
  | done result => rfl
  | instant effect next ih => exact ih workspace (effect workspace)
  | ask desk listId operation next ih => exact ih _ _
  | pause next ih => exact ih workspace
  | handOut jobs next ih =>
    rw [fill, run_bind, run_inOrder]
    exact ih _ _

end Script

namespace Effort

variable {Job Report α β : Type} {drift : Workspace → Workspace → Prop} {before after : Workspace}

/-- An effort goes on where its first part ends, or it ends there if that part is interrupted. -/
theorem ran_bind {first : Effort Job Report α} {next : α → Effort Job Report β}
    {happenings : List (Happening Job Report)} {result : Except Interruption β}
    (ran : Script.Ran drift (first >>= next).run before happenings result after) :
    (∃ early late reached middle, Script.Ran drift first.run before early (.ok reached) middle ∧
      Script.Ran drift (next reached).run middle late result after ∧ happenings = early ++ late) ∨
    ∃ interruption, Script.Ran drift first.run before happenings (.error interruption) after ∧
      result = .error interruption := by
  rw [run_bind] at ran
  obtain ⟨early, late, reached, middle, first, second, rfl⟩ := Script.ran_bind ran
  cases reached with
  | ok reached => exact .inl ⟨early, late, reached, middle, first, second, rfl⟩
  | error interruption =>
    obtain ⟨rfl, rfl, rfl⟩ := second
    exact .inr ⟨interruption, by rwa [List.append_nil], rfl⟩

end Effort

namespace Workspace

variable {workspace : Workspace} {number : Nat} {listId : Text} {list : TaskList}

/-- Whether a desk is there at which a list is worked on, and the clock shows what is needed. -/
structure Shows (workspace : Workspace) (number : Nat) (listId : Text) (list : TaskList) : Prop where
  /-- The desk is there. -/
  present : number < workspace.desks.length
  /-- The clock shows what is needed. -/
  dated : Store.dated workspace.host
  /-- The identifier of the list names a file. -/
  named : ∃ path, (workspace.desk number).store.filePath listId = .ok path
  /-- The list, from memory or else from the file. -/
  opened : (workspace.desk number).store.openedList listId workspace.host = .ok list

/-- Whether such a list is in memory. -/
structure Holds (workspace : Workspace) (number : Nat) (listId : Text) (list : TaskList) : Prop
    extends workspace.Shows number listId list where
  /-- The list in memory. -/
  held : (workspace.desk number).store.lists.find? listId = some list

/-- Whether nothing happens between two moments to a list that is worked on, be it in memory or not, or to the
desk or the clock. -/
structure LetsBe (number : Nat) (listId : Text) (before after : Workspace) : Prop where
  /-- The list is worked on still. -/
  shows : ∀ list, before.Shows number listId list → after.Shows number listId list
  /-- It is in memory still. -/
  holds : ∀ list, before.Holds number listId list → after.Holds number listId list

/-- Nothing need happen. -/
theorem LetsBe.refl (workspace : Workspace) : LetsBe number listId workspace workspace :=
  ⟨fun _ shows => shows, fun _ holds => holds⟩

/-- If a list is let be twice, it is let be. -/
theorem LetsBe.trans {before middle after : Workspace} (first : LetsBe number listId before middle)
    (second : LetsBe number listId middle after) : LetsBe number listId before after :=
  ⟨fun list shows => second.shows list (first.shows list shows),
    fun list holds => second.holds list (first.holds list holds)⟩

/-- Jobs that let a list be may be done while it is worked on. -/
theorem LetsBe.allows {Job Report : Type} {perform : Job → Workspace → Report × Workspace}
    (jobs : ∀ job workspace, LetsBe number listId workspace (perform job workspace).2) :
    Script.Allows (LetsBe number listId) perform :=
  ⟨LetsBe.refl, fun _ _ _ first second => first.trans second, jobs⟩

/-- Noting entries changes nothing about a list in memory. -/
theorem Holds.record (holds : workspace.Holds number listId list) (entries : List Entry) :
    (workspace.record entries).Holds number listId list := by
  have desk := desk_congr (desks_record workspace entries) number
  refine ⟨⟨?_, ?_, ?_, ?_⟩, ?_⟩
  · rw [desks_record]
    exact holds.present
  · rw [host_record]
    exact holds.dated
  · rw [desk]
    exact holds.named
  · rw [desk, host_record]
    exact holds.opened
  · rw [desk]
    exact holds.held

namespace Shows

/-- After an operation on the list, the list with the change, if there is one, is in memory. -/
theorem perform (shows : workspace.Shows number listId list) (operation : Operation) :
    (workspace.perform number listId operation).2.Holds number listId
      ((list.attempt listId workspace.clock.second operation).verdict.left?.getD list) := by
  have carries := carries_perform shows.present listId operation
  have course := Store.course_perform (workspace.desk number).store listId operation workspace.host
  have held := course.held shows.opened
  rw [← carries.store] at held
  refine ⟨⟨carries.length ▸ shows.present, ?_, ?_, Store.openedList_of_held held⟩, held⟩
  · rw [carries.host]
    exact shows.dated
  · rw [carries.store, Store.filePath, course.folder]
    exact shows.named

/-- What an operation on the list answers: what it comes to on the list, unless a change is not saved. -/
theorem answer (shows : workspace.Shows number listId list) (operation : Operation) :
    match (list.attempt listId workspace.clock.second operation).verdict with
    | .refused failure => (workspace.perform number listId operation).1 = .error failure
    | .answered answer => (workspace.perform number listId operation).1 = .ok answer
    | .changed _ answer => (workspace.perform number listId operation).1 = .ok answer ∨
        ∃ failure, (workspace.perform number listId operation).1 = .error failure ∧
          failure.isFailedSave = true
    | .brokenOff _ failure => (workspace.perform number listId operation).1 = .error failure := by
  have same : workspace.host.clock = workspace.clock := rfl
  rw [(carries_perform shows.present listId operation).result, Store.result_perform shows.dated, shows.opened,
    same]
  dsimp only
  cases (list.attempt listId workspace.clock.second operation).verdict with
  | refused failure => rfl
  | answered answer => rfl
  | brokenOff after failure => rfl
  | changed after answer =>
    have saved := Store.saved_save ((workspace.desk number).store.hold listId after) listId after workspace.host
    dsimp only
    cases result :
        (((workspace.desk number).store.hold listId after).save listId after workspace.host).result with
    | ok done => exact .inl rfl
    | error failure =>
      refine .inr ⟨failure, rfl, (saved.reason result).resolve_left fun unnamed => ?_⟩
      obtain ⟨path, named⟩ := shows.named
      cases unnamed.symm.trans named

end Shows

end Workspace

namespace Worker

variable {Job Report Finding : Type}

/-- A pass of a worker with nobody else about is a pass that hands its tasks out to its handler. -/
theorem run_pass [Inhabited Finding] (perform : Job → Workspace → Report × Workspace)
    (worker : Worker Job Report Finding) (workspace : Workspace) :
    Script.run perform worker.pass.run workspace =
      Script.run (fun task => (worker.handler task).run perform) worker.handingOut.pass.run workspace := by
  have fills : Script.fill worker.handler worker.handingOut.pass.run = worker.pass.run := worker.fills_pass
  rw [← fills, Script.run_fill]

end Worker

end Taskboard
