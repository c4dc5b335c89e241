import Taskboard.Proofs.Store.Identity
import Taskboard.Proofs.Worker.Alone

/-!
# A pass over a list

What a pass of a worker does to a list that it has for itself: it meets one candidate after another. A
candidate that cannot be claimed is passed over. One that can is in progress in memory from then on, and if
that is not saved the pass goes on without it; otherwise its handler is called, and unless the handler is
cancelled the task is then completed, or pending again, in memory, whether or not that is saved. A list that
cannot be put in its file ends the pass at that save. `Encounter`, `Sweep` and `Passed` say so list by list;
what happens about one task is one encounter with it.
-/

namespace Taskboard

/-- The status that a task is set to when its handler has ended, unless the handler was cancelled. -/
def HandlerEnd.settles? : HandlerEnd → Option Status
  | .returned => some .completed
  | .raised => some .pending
  | .cancelled => none

/-- A save fails in an expected way unless the list cannot be put in its file. -/
theorem Failure.unstorable_of_isFailedSave {failure : Failure} (failed : failure.isFailedSave = true)
    (unexpected : failure.isExpected = false) : ∃ what, failure = .unstorable what := by
  cases failure with
  | unstorable what => exact ⟨what, rfl⟩
  | unkept how => cases unexpected
  | _ => cases failed

/-- Whether a failure says that a task cannot be claimed. -/
def Failure.isRefusal : Failure → Bool
  | .notFound _ | .notClaimable .. | .blocked .. => true
  | _ => false

/-- A task as its claimant leaves it in a status, with the second of the last change. -/
def Task.heldBy (task : Task) (owner : Text) (status : Status) (second : Int) : Task :=
  { task with owner := some owner, status, updatedAt := max task.updatedAt second }

/-- A task that is held is held with its next status. -/
theorem Task.touch_apply_heldBy (task : Task) (owner : Text) (status status' : Status) (second second' : Int) :
    ((task.heldBy owner status second).apply (.toStatus status')).touch second' =
      task.heldBy owner status' (max second second') := by
  have latest : max (max task.updatedAt second) second' = max task.updatedAt (max second second') :=
    Int.max_assoc _ _ _
  simp only [heldBy, apply, touch, Change.toStatus, latest]
  rfl

namespace TaskList

variable {list : TaskList} {key : Text} {task : Task}

/-- Whether a task is stored under a key, is pending and waits for nothing. -/
def Claimable (list : TaskList) (key : Text) (task : Task) : Prop :=
  list.find? key = some task ∧ task.status = .pending ∧ list.incompleteDependencies task = []

/-- A task that can be claimed has its own identifier, whoever holds it. -/
theorem Claimable.id_heldBy (claimable : list.Claimable key task) (named : list.Named) (owner : Text)
    (status : Status) (second : Int) : (task.heldBy owner status second).id = key :=
  have own : task.id = key := named.id_eq claimable.1
  own

/-- Of two tasks put under one key the second stays. -/
theorem put_put (first next : Task) : (list.put key first).put key next = list.put key next := by
  have same : (list.tasks.put key first).put key next = list.tasks.put key next :=
    Keyed.ext (Entries.put_put key first next list.tasks.entries)
  rw [put, put, put, same]

/-- A task that can be claimed is claimed. -/
theorem Claimable.claim (listId owner : Text) (second : Int) (claimable : list.Claimable key task) :
    (list.claim listId key owner (.ok second)).verdict =
      .changed (list.put key (task.heldBy owner .inProgress second)) (task.heldBy owner .inProgress second) := by
  obtain ⟨found, pending, free⟩ := claimable
  unfold TaskList.claim
  simp only [found, pending, ne_eq, not_true_eq_false, if_false, free]
  rfl

/-- A claim of anything else is refused. -/
theorem claim_refused (listId owner : Text) (second : Int) (closed : ∀ task, ¬ list.Claimable key task) :
    ∃ failure, (list.claim listId key owner (.ok second)).verdict = .refused failure ∧
      failure.isRefusal = true := by
  unfold claim
  cases found : list.find? key with
  | none => exact ⟨_, rfl, rfl⟩
  | some task =>
    by_cases pending : task.status = .pending
    · cases blocked : list.incompleteDependencies task with
      | nil => exact absurd ⟨found, pending, blocked⟩ (closed task)
      | cons dependency rest =>
        simp only [pending, ne_eq, not_true_eq_false, if_false, blocked]
        exact ⟨_, rfl, rfl⟩
    · simp only [ne_eq, pending, not_false_eq_true, if_true]
      exact ⟨_, rfl, rfl⟩

/-- A task that is found is updated. -/
theorem update_found (listId : Text) (second : Int) (found : list.find? key = some task) (change : Change) :
    (list.update listId key change (.ok second)).verdict =
      .changed (list.put key ((task.apply change).touch second)) ((task.apply change).touch second) := by
  unfold update
  rw [found]
  rfl

end TaskList

namespace Worker

variable {Finding : Type}

/-- What may happen in a pass. -/
abbrev Chronicle (Finding : Type) := List (Happening Task (HandlerEnd × Finding))

open Happening

/-- The identifier of the task that something is about, if it is about one. -/
def taskOf? : Happening Task (HandlerEnd × Finding) → Option Text
  | replied ⟨.claim taskId _, _⟩ | replied ⟨.update taskId _, _⟩ => some taskId
  | replied _ => none
  | reported task _ => some task.id

/-- What happens about one task. -/
def about (key : Text) (happenings : Chronicle Finding) : Chronicle Finding :=
  happenings.filter fun happening => taskOf? happening = some key

/-- How a worker may fare with one candidate, given the list: what happens, what comes of it, and the list
afterwards. -/
inductive Encounter (owner key : Text) (list : TaskList) :
    Chronicle Finding → Except Interruption (Tally Finding) → TaskList → Prop where
  /-- The candidate cannot be claimed. -/
  | refused (failure : Failure) (refusal : failure.isRefusal = true)
      (closed : ∀ task, ¬ list.Claimable key task) :
      Encounter owner key list [replied ⟨.claim key owner, .error failure⟩] (.ok .empty) list
  /-- It is claimed in memory, and that is not saved. -/
  | unsaved {task : Task} (second : Int) (failure : Failure) (claimable : list.Claimable key task)
      (failed : failure.isFailedSave = true) (expected : failure.isExpected = true) :
      Encounter owner key list [replied ⟨.claim key owner, .error failure⟩] (.ok .empty)
        (list.put key (task.heldBy owner .inProgress second))
  /-- It is claimed in memory, and the list cannot be put in its file. -/
  | unstored {task : Task} (second : Int) (what : Unstorable) (claimable : list.Claimable key task) :
      Encounter owner key list [replied ⟨.claim key owner, .error (.unstorable what)⟩]
        (.error (.unexpected (.unstorable what))) (list.put key (task.heldBy owner .inProgress second))
  /-- It is claimed, and its handler is cancelled. -/
  | cancelled {task : Task} (second : Int) (finding : Finding) (claimable : list.Claimable key task) :
      Encounter owner key list
        [replied ⟨.claim key owner, .ok (task.heldBy owner .inProgress second)⟩,
          reported (task.heldBy owner .inProgress second) (.cancelled, finding)]
        (.error .cancelled) (list.put key (task.heldBy owner .inProgress second))
  /-- It is claimed and handled, and its status is set, be that saved or not. -/
  | settled {task : Task} (second second' : Int) (finding : Finding) {handlerEnd : HandlerEnd}
      {status : Status} (answer : Except Failure Task) (claimable : list.Claimable key task)
      (settles : handlerEnd.settles? = some status)
      (saved : answer = .ok (task.heldBy owner status second') ∨
        ∃ failure, answer = .error failure ∧ failure.isFailedSave = true ∧ failure.isExpected = true) :
      Encounter owner key list
        [replied ⟨.claim key owner, .ok (task.heldBy owner .inProgress second)⟩,
          reported (task.heldBy owner .inProgress second) (handlerEnd, finding),
          replied ⟨.update key (.toStatus status), answer⟩]
        (.ok ⟨if status = .completed ∧ answer.isOk then [key] else [], [finding]⟩)
        (list.put key (task.heldBy owner status second'))
  /-- It is claimed and handled, its status is set, and the list cannot be put in its file. -/
  | unsettled {task : Task} (second second' : Int) (finding : Finding) {handlerEnd : HandlerEnd}
      {status : Status} (what : Unstorable) (claimable : list.Claimable key task)
      (settles : handlerEnd.settles? = some status) :
      Encounter owner key list
        [replied ⟨.claim key owner, .ok (task.heldBy owner .inProgress second)⟩,
          reported (task.heldBy owner .inProgress second) (handlerEnd, finding),
          replied ⟨.update key (.toStatus status), .error (.unstorable what)⟩]
        (.error (.unexpected (.unstorable what))) (list.put key (task.heldBy owner status second'))

/-- How a worker may fare with some candidates, one after another. -/
inductive Sweep (owner : Text) :
    List Task → TaskList → Chronicle Finding → Except Interruption (Tally Finding) → TaskList → Prop where
  /-- There are none left. -/
  | done (list : TaskList) : Sweep owner [] list [] (.ok .empty) list
  /-- It goes on after the first one. -/
  | next {candidate : Task} {rest : List Task} {list middle after : TaskList} {early late : Chronicle Finding}
      {tally : Tally Finding} {result : Except Interruption (Tally Finding)}
      (first : Encounter owner candidate.id list early (.ok tally) middle)
      (others : Sweep owner rest middle late result after) :
      Sweep owner (candidate :: rest) list (early ++ late) (result.map tally.append) after
  /-- It is interrupted at the first one. -/
  | cut {candidate : Task} {rest : List Task} {list after : TaskList} {happenings : Chronicle Finding}
      {interruption : Interruption}
      (first : Encounter owner candidate.id list happenings (.error interruption) after) :
      Sweep owner (candidate :: rest) list happenings (.error interruption) after

/-- How a pass may go: the pending tasks are listed, and as many as the worker takes at a time are its
candidates, unless that number is none. -/
inductive Passed {Job Report : Type} (worker : Worker Job Report Finding) (list : TaskList) :
    Chronicle Finding → Except Interruption (Tally Finding) → TaskList → Prop where
  /-- It is interrupted since the greatest number of tasks is not a number of tasks. -/
  | unlimited (fault : QuantityFault) (limited : worker.batchLimit.toInt = .error fault) :
      Passed worker list [replied ⟨.list (some .pending), .ok (list.listed (some .pending))⟩]
        (.error (.unexpected (.quantity fault))) list
  /-- It goes through the candidates. -/
  | swept {limit : Int} {happenings : Chronicle Finding} {result : Except Interruption (Tally Finding)}
      {after : TaskList} (limited : worker.batchLimit.toInt = .ok limit)
      (sweep : Sweep worker.owner ((list.listed (some .pending)).take limit.toNat) list happenings result
        after) :
      Passed worker list
        (replied ⟨.list (some .pending), .ok (list.listed (some .pending))⟩ :: happenings) result after

section

variable {owner key : Text} {list after : TaskList} {happenings : Chronicle Finding}
  {result : Except Interruption (Tally Finding)}

/-- The list stays as it is, or a task that can be claimed is held by the worker. -/
theorem Encounter.change (encounter : Encounter owner key list happenings result after) :
    after = list ∨ ∃ task status second, list.Claimable key task ∧
      after = list.put key (task.heldBy owner status second) := by
  cases encounter with
  | refused failure refusal closed => exact .inl rfl
  | unsaved second failure claimable failed expected => exact .inr ⟨_, _, second, claimable, rfl⟩
  | unstored second what claimable => exact .inr ⟨_, _, second, claimable, rfl⟩
  | cancelled second finding claimable => exact .inr ⟨_, _, second, claimable, rfl⟩
  | settled second second' finding answer claimable settles saved =>
    exact .inr ⟨_, _, second', claimable, rfl⟩
  | unsettled second second' finding what claimable settles => exact .inr ⟨_, _, second', claimable, rfl⟩

/-- Only the record of the candidate changes. -/
theorem Encounter.find?_other (encounter : Encounter owner key list happenings result after) {other : Text}
    (ne : other ≠ key) : after.find? other = list.find? other := by
  rcases encounter.change with rfl | ⟨task, status, second, -, rfl⟩
  · rfl
  · rw [TaskList.find?_put, if_neg ne]

/-- Tasks stay under their own identifiers. -/
theorem Encounter.named (encounter : Encounter owner key list happenings result after) (named : list.Named) :
    after.Named := by
  rcases encounter.change with rfl | ⟨task, status, second, claimable, rfl⟩
  · exact named
  · have stored := named.put (task.heldBy owner status second)
    rwa [claimable.id_heldBy named] at stored

/-- All that happens is about the candidate. -/
theorem Encounter.taskOf? (encounter : Encounter owner key list happenings result after) (named : list.Named) :
    ∀ happening ∈ happenings, taskOf? happening = some key := by
  intro happening mem
  cases encounter with
  | refused failure refusal closed =>
    rw [List.mem_singleton.mp mem]
    rfl
  | unsaved second failure claimable failed expected =>
    rw [List.mem_singleton.mp mem]
    rfl
  | unstored second what claimable =>
    rw [List.mem_singleton.mp mem]
    rfl
  | cancelled second finding claimable =>
    simp only [List.mem_cons, List.not_mem_nil, or_false] at mem
    rcases mem with rfl | rfl
    · rfl
    · exact congrArg some (claimable.id_heldBy named owner .inProgress second)
  | settled second second' finding answer claimable settles saved =>
    simp only [List.mem_cons, List.not_mem_nil, or_false] at mem
    rcases mem with rfl | rfl | rfl
    · rfl
    · exact congrArg some (claimable.id_heldBy named owner .inProgress second)
    · rfl
  | unsettled second second' finding what claimable settles =>
    simp only [List.mem_cons, List.not_mem_nil, or_false] at mem
    rcases mem with rfl | rfl | rfl
    · rfl
    · exact congrArg some (claimable.id_heldBy named owner .inProgress second)
    · rfl

/-- So it is all that happens about the candidate. -/
theorem Encounter.about_self (encounter : Encounter owner key list happenings result after)
    (named : list.Named) : about key happenings = happenings :=
  List.filter_eq_self.mpr fun happening mem => decide_eq_true (encounter.taskOf? named happening mem)

/-- And nothing happens about other tasks. -/
theorem Encounter.about_other (encounter : Encounter owner key list happenings result after)
    (named : list.Named) {other : Text} (ne : key ≠ other) : about other happenings = [] := by
  refine List.filter_eq_nil_iff.mpr fun happening mem same => ?_
  have own := encounter.taskOf? named happening mem
  exact ne (Option.some.inj (own.symm.trans (of_decide_eq_true same)))

/-- A sweep leaves alone what is none of its candidates. -/
theorem Sweep.absent {candidates : List Task} (sweep : Sweep owner candidates list happenings result after)
    (named : list.Named) (other : key ∉ candidates.map Task.id) :
    about key happenings = [] ∧ after.find? key = list.find? key := by
  induction sweep with
  | done list => exact ⟨rfl, rfl⟩
  | @next candidate rest list middle after early late tally result first others ih =>
    rw [List.map_cons, List.mem_cons, not_or] at other
    obtain ⟨ne, other⟩ := other
    obtain ⟨none, same⟩ := ih (first.named named) other
    have before := first.about_other named (Ne.symm ne)
    refine ⟨?_, same.trans (first.find?_other ne)⟩
    rw [about, List.filter_append]
    exact List.append_eq_nil_iff.mpr ⟨before, none⟩
  | cut first =>
    rw [List.map_cons, List.mem_cons, not_or] at other
    exact ⟨first.about_other named (Ne.symm other.1), first.find?_other other.1⟩

/-- What happens about a task in a sweep, if anything does, is the one encounter with it, and nothing else
changes its record. -/
theorem Sweep.history {candidates : List Task} (sweep : Sweep owner candidates list happenings result after)
    (named : list.Named) (distinct : (candidates.map Task.id).Nodup) (key : Text) :
    about key happenings = [] ∧ after.find? key = list.find? key ∨
      key ∈ candidates.map Task.id ∧ ∃ before result middle, before.Named ∧
        Encounter owner key before (about key happenings) result middle ∧
        before.find? key = list.find? key ∧ after.find? key = middle.find? key := by
  induction sweep with
  | done list => exact .inl ⟨rfl, rfl⟩
  | @next candidate rest list middle after early late tally result first others ih =>
    obtain ⟨once, distinct⟩ := List.nodup_cons.mp distinct
    have named' := first.named named
    have split : about key (early ++ late) = about key early ++ about key late := List.filter_append _ _
    by_cases own : key = candidate.id
    · subst own
      obtain ⟨none, same⟩ := others.absent named' once
      rw [split, none, List.append_nil, first.about_self named]
      exact .inr ⟨List.mem_cons_self, list, _, middle, named, first, rfl, same⟩
    · have same := first.find?_other own
      rw [split, first.about_other named (Ne.symm own), List.nil_append, ← same]
      rcases ih named' distinct with untouched | ⟨mem, met⟩
      · exact .inl untouched
      · exact .inr ⟨List.mem_cons_of_mem _ mem, met⟩
  | @cut candidate rest list after happenings interruption first =>
    by_cases own : key = candidate.id
    · subst own
      rw [first.about_self named]
      exact .inr ⟨List.mem_cons_self, list, _, after, named, first, rfl, rfl⟩
    · exact .inl ⟨first.about_other named (Ne.symm own), first.find?_other own⟩

/-- The identifiers of listed tasks are different. -/
theorem nodup_listed (named : list.Named) (status : Option Status) : ((list.listed status).map Task.id).Nodup := by
  have all : ((list.listed none).map Task.id).Nodup := named.ids_perm.nodup_iff.mpr list.tasks.distinct
  rw [TaskList.listed_none] at all
  have part : (list.listed status).Sublist list.sorted := List.filter_sublist
  exact all.sublist (part.map Task.id)

/-- So are those of the candidates. -/
theorem distinct_listed (named : list.Named) (status : Option Status) (limit : Nat) :
    (((list.listed status).take limit).map Task.id).Nodup :=
  (nodup_listed named status).sublist ((List.take_sublist _ _).map Task.id)

/-- What happens about a task in a pass, if anything does, is one encounter with it while it is as it was at the
start, and nothing else changes its record. -/
theorem Passed.history {Job Report : Type} {worker : Worker Job Report Finding}
    (passed : Passed worker list happenings result after) (named : list.Named) (key : Text) :
    about key happenings = [] ∧ after.find? key = list.find? key ∨
      ∃ before result middle, before.Named ∧
        Encounter worker.owner key before (about key happenings) result middle ∧
        before.find? key = list.find? key ∧ after.find? key = middle.find? key := by
  cases passed with
  | unlimited fault limited => exact .inl ⟨rfl, rfl⟩
  | @swept limit happenings result after limited sweep =>
    have listing : about key (replied ⟨.list (some .pending), .ok (list.listed (some .pending))⟩ :: happenings) =
        about key happenings := List.filter_cons_of_neg nofun
    rw [listing]
    rcases sweep.history named (distinct_listed named _ _) key with untouched | ⟨-, met⟩
    · exact .inl untouched
    · exact .inr met

end

end Worker

end Taskboard
