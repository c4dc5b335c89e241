import Taskboard.Workspace

/-!
# Scripts

A script is what one caller does: it looks at the workspace and changes it in instants of its own, asks
the store of a desk for operations, pauses, and hands out jobs that are to be done together. Its course
depends on the answers and reports it gets. Scripts are finite trees, so that running one alone is a
recursion on the script, given what a job comes to; how several scripts share the lock of a store is
another way to run them.

Most scripts may fail. An undertaking is a script whose result says whether it did; what callers do is
composed of small undertakings, and the first one that fails ends the whole unless somebody handles the
failure.
-/

namespace Taskboard

/-- What one caller does until it has a result. -/
inductive Script (Job Report α : Type) where
  /-- It has its result. -/
  | done (result : α)
  /-- It changes the workspace, and goes on in view of the workspace before the change. -/
  | instant (effect : Workspace → Workspace) (next : Workspace → Script Job Report α)
  /-- It asks the store of a desk for an operation on a list, and goes on with the answer. -/
  | ask (desk : Nat) (listId : Text) (operation : Operation)
      (next : Except Failure operation.Answer → Script Job Report α)
  /-- It lets others go first. -/
  | pause (next : Script Job Report α)
  /-- It has jobs done together by others, and goes on with their reports, in the order of the jobs. -/
  | handOut (jobs : List Job) (next : List Report → Script Job Report α)

namespace Script

variable {Job Report α β : Type}

/-- Goes on with a second script once the first has its result. -/
def bind : Script Job Report α → (α → Script Job Report β) → Script Job Report β
  | .done result, f => f result
  | .instant effect next, f => .instant effect fun workspace => (next workspace).bind f
  | .ask desk listId operation next, f => .ask desk listId operation fun answer =>
    (next answer).bind f
  | .pause next, f => .pause (next.bind f)
  | .handOut jobs next, f => .handOut jobs fun reports => (next reports).bind f

instance : Monad (Script Job Report) where
  pure := .done
  bind := .bind

/-- What is to be done after a script in any case comes after its result: a script always has one. -/
instance : MonadFinally (Script Job Report) where
  tryFinally' script next := do
    let result ← script
    let other ← next (some result)
    return (result, other)

theorem bind_assoc {γ : Type} (script : Script Job Report α) (f : α → Script Job Report β)
    (g : β → Script Job Report γ) :
    (script.bind f).bind g = script.bind fun result => (f result).bind g := by
  induction script with
  | done result => rfl
  | instant effect next ih => simp only [bind, ih]
  | ask desk listId operation next ih => simp only [bind, ih]
  | pause next ih => simp only [bind, ih]
  | handOut jobs next ih => simp only [bind, ih]

end Script

/-- What one caller does until it has a result or fails. -/
abbrev Undertaking (Job Report : Type) := ExceptT Failure (Script Job Report)

namespace Script

variable {Job Report α β : Type}

/-- Changes the workspace and takes a result from it, or why there is none. -/
def attempt (effect : Workspace → Except Failure α × Workspace) : Undertaking Job Report α :=
  .mk (.instant (fun workspace => (effect workspace).2) fun workspace => .done (effect workspace).1)

/-- The workspace as it is. -/
def look : Undertaking Job Report Workspace := attempt fun workspace => (.ok workspace, workspace)

/-- Changes the workspace. -/
def change (effect : Workspace → Workspace) : Undertaking Job Report Unit :=
  attempt fun workspace => (.ok (), effect workspace)

/-- Writes an entry to the log. -/
def note (entry : Entry) : Undertaking Job Report Unit := attempt (·.note entry)

/-- The desk with a number. -/
def desk (number : Nat) : Undertaking Job Report Desk :=
  attempt fun workspace => (.ok (workspace.desk number), workspace)

/-- Asks for one operation. -/
def request (number : Nat) (listId : Text) (operation : Operation) :
    Undertaking Job Report operation.Answer :=
  .mk (.ask number listId operation .done)

/-- Lets others go first. -/
def giveWay : Undertaking Job Report Unit := .mk (.pause (.done (.ok ())))

/-- Has jobs done together. -/
def together (jobs : List Job) : Undertaking Job Report (List Report) :=
  .mk (.handOut jobs fun reports => .done (.ok reports))

/-- Does jobs one after another. -/
def inTurn (perform : Job → Workspace → Report × Workspace) :
    List Job → Workspace → List Report × Workspace
  | [], workspace => ([], workspace)
  | job :: rest, workspace =>
    let (report, workspace) := perform job workspace
    let (reports, workspace) := inTurn perform rest workspace
    (report :: reports, workspace)

/-- Runs a script with nobody else about; the jobs it hands out are done one after another. -/
def run (perform : Job → Workspace → Report × Workspace) :
    Script Job Report α → Workspace → α × Workspace
  | .done result, workspace => (result, workspace)
  | .instant effect next, workspace => (next workspace).run perform (effect workspace)
  | .ask number listId operation next, workspace =>
    let (answer, workspace) := workspace.perform number listId operation
    (next answer).run perform workspace
  | .pause next, workspace => next.run perform workspace
  | .handOut jobs next, workspace =>
    let (reports, workspace) := inTurn perform jobs workspace
    (next reports).run perform workspace

/-- Runs a script that has no jobs to hand out. -/
def runAlone (script : Script Empty Report α) (workspace : Workspace) : α × Workspace :=
  script.run (fun job _ => nomatch job) workspace

theorem run_bind (perform : Job → Workspace → Report × Workspace) (script : Script Job Report α)
    (f : α → Script Job Report β) (workspace : Workspace) :
    (script.bind f).run perform workspace =
      (f (script.run perform workspace).1).run perform (script.run perform workspace).2 := by
  induction script generalizing workspace with
  | done result => rfl
  | instant effect next ih => simp only [bind, run, ih]
  | ask desk listId operation next ih => simp only [bind, run, ih]
  | pause next ih => simp only [bind, run, ih]
  | handOut jobs next ih => simp only [bind, run, ih]

/-- An undertaking goes on where its first part ends, unless that part fails. -/
theorem run_undertaking (perform : Job → Workspace → Report × Workspace)
    (first : Undertaking Job Report α) (next : α → Undertaking Job Report β)
    (workspace : Workspace) :
    Script.run perform (first >>= next).run workspace =
      match Script.run perform first.run workspace with
      | (.ok result, workspace) => Script.run perform (next result).run workspace
      | (.error failure, workspace) => (.error failure, workspace) := by
  refine (run_bind perform first.run _ workspace).trans ?_
  rcases Script.run perform first.run workspace with ⟨result | result, after⟩ <;> rfl

end Script

end Taskboard
