import Taskboard.Proofs.Store.Save
import Taskboard.Proofs.Text.Utf8

/-!
# Paths that the disk can be asked for

A path is refused before it is followed if a null character stands in one of its names, or a surrogate that stands
for no byte. Such a failure has no number, and nothing else that goes wrong on the disk lacks one. The folder of a
path and the file beside it have names that can be spelled if the path has.
-/

namespace Taskboard

/-- Whether all names of a path can be spelled in bytes. -/
def Path.Spelled (path : Path) : Prop :=
  ∀ name ∈ path.names, ∀ c ∈ name.toList,
    c ≠ CodePoint.ofNat 0 ∧ ∀ offset, c = .surrogate offset → Utf8.standsForByte offset = true

namespace Disk

variable {disk : Disk} {path : Path} {place : Location} {name : Text} {names : List Text}
  {trouble : DiskFailure} {fault : DiskFault}

/-- A letter stands in texts with separators between them if it stands in one of them, unless it is one of the
separators. -/
theorem mem_intercalate {separator : List CodePoint} {c : CodePoint} (apart : c ∉ separator)
    (lists : List (List CodePoint)) : c ∈ separator.intercalate lists ↔ ∃ list ∈ lists, c ∈ list := by
  induction lists with
  | nil => simp [List.intercalate]
  | cons first rest ih =>
    cases rest with
    | nil => simp [List.intercalate]
    | cons second rest =>
      rw [List.intercalate_cons_cons, List.mem_append, List.mem_append, ih]
      simp [apart]

/-- A surrogate stands in the text of a path if it stands in one of the names. -/
theorem surrogate_mem_text (path : Path) (offset : Fin 0x800) :
    .surrogate offset ∈ path.text.toList ↔ ∃ name ∈ path.names, .surrogate offset ∈ name.toList := by
  obtain ⟨root, names⟩ := path
  have unrooted : CodePoint.surrogate offset ∉ (Path.rootText root).toList := by cases root <;> simp [Path.rootText]
  have between : CodePoint.surrogate offset ∉ (Text.ofString "/").toList := by simp
  have rest : CodePoint.surrogate offset ∈ (Path.rootText root ++ Text.intercalate "/" names).toList ↔
      ∃ name ∈ names, .surrogate offset ∈ name.toList := by
    rw [Text.toList_append, List.mem_append, Text.intercalate, Text.toList_ofList, mem_intercalate between]
    rw [or_iff_right unrooted]
    constructor
    · rintro ⟨letters, mapped, here⟩
      obtain ⟨name, mem, rfl⟩ := List.mem_map.mp mapped
      exact ⟨name, mem, here⟩
    · rintro ⟨name, mem, here⟩
      exact ⟨name.toList, List.mem_map_of_mem mem, here⟩
  rw [Path.text]
  split
  · next nameless =>
    cases nameless
    simp
  · exact rest

/-- A path is refused without a number exactly if one of its names cannot be spelled. -/
theorem spelled_iff : path.Spelled ↔ ∀ trouble, refusal? path = some trouble → trouble.code? ≠ none := by
  have bytes : Utf8.nameFault? path.text = none ↔
      ∀ name ∈ path.names, ∀ offset, .surrogate offset ∈ name.toList → Utf8.standsForByte offset = true := by
    rw [Utf8.nameFault?, Utf8.faultFrom?_eq_none_iff]
    simp only [surrogate_mem_text]
    exact ⟨fun all name mem offset here => all offset ⟨name, mem, here⟩,
      fun all offset ⟨name, mem, here⟩ => all name mem offset here⟩
  have full : (path.names.any fun name => name.toList.contains (CodePoint.ofNat 0)) = false ↔
      ∀ name ∈ path.names, CodePoint.ofNat 0 ∉ name.toList := by
    simp
  rw [refusal?]
  cases unspelled : Utf8.nameFault? path.text with
  | some fault =>
    refine ⟨fun spelled => ?_, fun coded => absurd rfl (coded _ rfl)⟩
    have clean := bytes.mpr fun name mem offset here => (spelled name mem _ here).2 offset rfl
    cases clean.symm.trans unspelled
  | none =>
    have stands := bytes.mp unspelled
    simp only
    cases null : path.names.any fun name => name.toList.contains (CodePoint.ofNat 0) with
    | true =>
      refine ⟨fun spelled => ?_, fun coded => absurd rfl (coded _ rfl)⟩
      have clean := full.mpr fun name mem here => (spelled name mem _ here).1 rfl
      cases clean.symm.trans null
    | false =>
      have clean := full.mp null
      refine ⟨fun _ trouble refused => ?_, fun _ name mem c here => ⟨?_, ?_⟩⟩
      · rw [if_neg Bool.false_ne_true] at refused
        split at refused
        · cases refused
          exact Option.some_ne_none _
        · cases refused
      · rintro rfl
        exact clean name mem here
      · rintro offset rfl
        exact stands name mem offset here

/-- That a name is too long has a number. -/
theorem code?_of_step (failed : step place name = .error trouble) : trouble.code? ≠ none := by
  rw [step] at failed
  split at failed
  · cases failed
  · split at failed
    · cases failed
      exact Option.some_ne_none _
    · cases failed

/-- So has everything that goes wrong on the way down. -/
theorem code?_of_descend (failed : disk.descend place names = .error trouble) : trouble.code? ≠ none := by
  induction names generalizing place with
  | nil => cases failed
  | cons name rest ih =>
    rw [descend] at failed
    cases stepped : step place name with
    | error why =>
      rw [stepped] at failed
      cases failed
      exact code?_of_step stepped
    | ok next =>
      rw [stepped] at failed
      simp only at failed
      split at failed
      · cases failed
        exact Option.some_ne_none _
      · cases failed
        exact Option.some_ne_none _
      · exact ih failed

/-- So has what keeps a path from being located if its names can be spelled. -/
theorem code?_of_locate (spelled : path.Spelled) (failed : disk.locate path = .error trouble) :
    trouble.code? ≠ none := by
  rw [locate] at failed
  cases refused : refusal? path with
  | some why =>
    rw [refused] at failed
    cases failed
    exact spelled_iff.mp spelled trouble refused
  | none =>
    rw [refused] at failed
    simp only at failed
    split at failed
    · cases failed
    · split at failed
      · next down =>
        cases failed
        exact code?_of_descend down
      · exact code?_of_step failed

/-- What cannot be read fails with a number, unless it is refused. -/
theorem refusal_of_read (failed : disk.read path = .error trouble) (uncoded : trouble.code? = none) :
    refusal? path = some trouble := by
  cases refused : refusal? path with
  | some why =>
    rw [read, locate, refused] at failed
    cases failed
    rfl
  | none =>
    have spelled : path.Spelled := spelled_iff.mpr fun why same => by cases refused.symm.trans same
    rw [read] at failed
    cases located : disk.locate path with
    | error why =>
      rw [located] at failed
      cases failed
      exact absurd uncoded (code?_of_locate spelled located)
    | ok place =>
      rw [located] at failed
      simp only at failed
      split at failed
      all_goals cases failed
      all_goals cases uncoded

/-- What stops the making of folders has a number. -/
theorem code?_of_ensureBelow {progress : Progress}
    (stopped : (disk.ensureBelow path progress names).fault = some fault) : fault.failure.code? ≠ none := by
  induction names generalizing disk progress with
  | nil => cases stopped
  | cons name rest ih =>
    rw [ensureBelow] at stopped
    cases stepped : step progress.place name with
    | error why =>
      rw [stepped] at stopped
      cases stopped
      exact code?_of_step stepped
    | ok next =>
      rw [stepped] at stopped
      simp only at stopped
      split at stopped
      · exact ih stopped
      · cases stopped
        dsimp only
        split <;> exact Option.some_ne_none _
      · exact ih stopped

/-- The paths that a step works on. -/
def Step.paths : Step → List Path
  | .ensureFolders path => [path]
  | .write path _ => [path]
  | .rename source target => [source, target]

/-- Whatever stops a step that works on paths that can be spelled has a number. -/
theorem code?_of_perform {step : Step} (spelled : ∀ path ∈ step.paths, path.Spelled)
    (stopped : (disk.perform step).fault = some fault) : fault.failure.code? ≠ none := by
  cases step with
  | ensureFolders path =>
    have spelled := spelled path List.mem_cons_self
    rw [perform, ensureFolders] at stopped
    cases refused : refusal? path with
    | some why =>
      rw [refused] at stopped
      cases stopped
      exact spelled_iff.mp spelled why refused
    | none =>
      rw [refused] at stopped
      exact code?_of_ensureBelow stopped
  | write path bytes =>
    have spelled := spelled path List.mem_cons_self
    rw [perform, write] at stopped
    cases located : disk.locate path with
    | error why =>
      rw [located] at stopped
      cases stopped
      exact code?_of_locate spelled located
    | ok place =>
      rw [located] at stopped
      simp only at stopped
      split at stopped
      all_goals cases stopped
      exact Option.some_ne_none _
  | rename source target =>
    have spelledSource := spelled source List.mem_cons_self
    have spelledTarget := spelled target (List.mem_cons_of_mem _ List.mem_cons_self)
    rw [perform, rename] at stopped
    cases from' : disk.locate source with
    | error why =>
      rw [from'] at stopped
      cases stopped
      exact code?_of_locate spelledSource from'
    | ok place =>
      cases to' : disk.locate target with
      | error why =>
        rw [from', to'] at stopped
        cases stopped
        exact code?_of_locate spelledTarget to'
      | ok place' =>
        rw [from', to'] at stopped
        simp only at stopped
        split at stopped
        · cases stopped
          exact Option.some_ne_none _
        · split at stopped
          all_goals cases stopped
          exact Option.some_ne_none _

/-- So has whatever stops some such steps. -/
theorem code?_of_performAll {steps : List Step} (spelled : ∀ step ∈ steps, ∀ path ∈ step.paths, path.Spelled)
    (stopped : (disk.performAll steps).fault = some fault) : fault.failure.code? ≠ none := by
  induction steps generalizing disk with
  | nil => cases stopped
  | cons step rest ih =>
    rw [performAll] at stopped
    cases done : disk.perform step with
    | mk after fault' =>
      rw [done] at stopped
      cases fault' with
      | none => exact ih (fun step mem => spelled step (List.mem_cons_of_mem _ mem)) stopped
      | some fault' =>
        cases stopped
        have failed : (disk.perform step).fault = some fault := by rw [done]
        exact code?_of_perform (spelled step List.mem_cons_self) failed

end Disk

namespace Path.Spelled

variable {path : Path}

/-- If a path can be spelled, so can the folder that it leads through. -/
theorem parent (spelled : path.Spelled) : path.parent.Spelled :=
  fun name mem => spelled name ((List.dropLast_sublist _).subset mem)

/-- So can every path that it starts with. -/
theorem take (spelled : path.Spelled) (count : Nat) : Path.Spelled ⟨path.root, path.names.take count⟩ :=
  fun name mem => spelled name (List.mem_of_mem_take mem)

/-- So can the path of the file beside. -/
theorem beside (spelled : path.Spelled) : (Store.beside path).Spelled := by
  have plain : ∀ c ∈ (Text.ofString ".tmp").toList,
      c ≠ CodePoint.ofNat 0 ∧ ∀ offset, c = .surrogate offset → Utf8.standsForByte offset = true := by
    intro c here
    obtain ⟨letter, mem, rfl⟩ := List.mem_map.mp here
    refine ⟨fun null => ?_, fun offset same => by cases same⟩
    rw [null] at here
    revert here
    decide
  have last : ∀ c ∈ (path.names.getLastD "").toList,
      c ≠ CodePoint.ofNat 0 ∧ ∀ offset, c = .surrogate offset → Utf8.standsForByte offset = true := by
    rw [List.getLastD_eq_getLast?]
    cases found : path.names.getLast? with
    | none => exact fun c here => absurd here List.not_mem_nil
    | some name => exact spelled name (List.mem_of_getLast? found)
  intro name mem c here
  rcases List.mem_append.mp mem with mem | mem
  · exact spelled name ((List.dropLast_sublist _).subset mem) c here
  · rw [List.mem_singleton.mp mem, Text.toList_append] at here
    exact (List.mem_append.mp here).elim (last c) (plain c)

end Path.Spelled

namespace Store

open Disk

variable {path : Path}

/-- If a path can be spelled, so can all that a save works on. -/
theorem spelled_saveSteps (spelled : path.Spelled) (bytes : List UInt8) :
    ∀ step ∈ saveSteps path bytes, ∀ path ∈ step.paths, path.Spelled := by
  intro step mem other here
  simp only [saveSteps, openingSteps, List.cons_append, List.nil_append, List.mem_cons, List.not_mem_nil,
    or_false] at mem
  rcases mem with rfl | rfl | rfl
  · rw [List.mem_singleton.mp here]
    exact spelled.parent
  · rw [List.mem_singleton.mp here]
    exact spelled.beside
  · rcases List.mem_cons.mp here with rfl | here
    · exact spelled.beside
    · rw [List.mem_singleton.mp here]
      exact spelled

/-- So can all that is carried out before a breakdown. -/
theorem spelled_carriedOut {breakdown : Breakdown} {steps : List Step}
    (spelled : ∀ step ∈ steps, ∀ path ∈ step.paths, path.Spelled) :
    ∀ step ∈ breakdown.carriedOut steps, ∀ path ∈ step.paths, path.Spelled := by
  intro step mem
  rw [Breakdown.carriedOut] at mem
  rcases List.mem_append.mp mem with mem | mem
  · exact spelled step (List.mem_of_mem_take mem)
  · split at mem
    · next count next part reached =>
      have whole := spelled next (List.mem_of_getElem? reached)
      cases next with
      | ensureFolders path =>
        rw [List.mem_singleton.mp mem]
        intro other here
        rw [List.mem_singleton.mp here]
        exact (whole path List.mem_cons_self).take count
      | write path bytes =>
        rw [List.mem_singleton.mp mem]
        exact whole
      | rename source target => cases mem
    · cases mem

end Store

end Taskboard
