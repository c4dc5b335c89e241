import Mathlib.Data.List.Nodup
import Taskboard.Proofs.Store.Run

/-!
# Identifiers and files of lists

An identifier names a list exactly if it is a proper name of a file: not empty, neither of the two names that lead
elsewhere, and without separators. The name of the file of such a list, and the name of the file that is written beside
it, are then proper names too. Read as paths they neither fall apart nor fall away, and they lead to entries of the
task folder, wherever that folder is. Different identifiers share neither of the two.

A store that was used from its beginning holds lists under such identifiers only. So a list in memory never answers for
an identifier that would have been refused, although memory is looked at first.
-/

namespace Taskboard

open Disk

/-- A text without the mark is one piece. -/
theorem Text.pieces_of_notMem {mark : CodePoint} {text : List CodePoint} (notMem : mark ∉ text) :
    pieces mark text = [text] := by
  induction text with
  | nil => rfl
  | cons c rest ih =>
    rw [List.mem_cons, not_or] at notMem
    rw [pieces, if_neg fun same => notMem.1 same.symm, ih notMem.2]

namespace Path

/-- A proper name of a file. -/
structure IsFileName (name : Text) : Prop where
  /-- It is not empty. -/
  filled : name ≠ ""
  /-- It is not the name of where one stands. -/
  notDot : name ≠ "."
  /-- It is not the name of the folder above. -/
  notDots : name ≠ ".."
  /-- No character in it separates or ends names. -/
  solid : ∀ c ∈ name.toList, c ≠ '/' ∧ c ≠ '\\' ∧ c ≠ CodePoint.ofNat 0

/-- A path is that of an entry of a folder, by its name. -/
structure IsEntry (folder : Path) (name : Text) (path : Path) : Prop where
  /-- The name is a proper one. -/
  proper : IsFileName name
  /-- The path goes through the folder and is one name longer. -/
  child : path = folder.child name
  /-- One gets there by following the text of the name as a path. -/
  follows : folder.join (.ofText name) = path
  /-- Wherever the path leads on a disk, that is in the place of the folder and has this name. -/
  place : ∀ (disk : Disk) (place : Location), disk.locate path = .ok place →
    ∃ here, place? folder = some here ∧ place = here ++ [name]

variable {folder : Path} {name ending : Text}

/-- A proper name, read as a path, is this one name. -/
theorem IsFileName.ofText_eq (proper : IsFileName name) : ofText name = ⟨.here, [name]⟩ := by
  have notSlash : .char '/' ∉ name.toList := fun mem => (proper.solid _ mem).1 rfl
  have filled : name.toList ≠ [] := fun empty => proper.filled (Text.toList_eq_nil_iff.mp empty)
  have notDot : name.toList ≠ [.char '.'] := fun dot => proper.notDot (Text.toList_inj.mp dot)
  have start : rootOf name.toList = .here := by
    obtain ⟨c, rest, spelled⟩ := List.exists_cons_of_ne_nil filled
    have first : c ≠ '/' := fun same => notSlash (spelled ▸ same ▸ List.mem_cons_self)
    rw [rootOf, spelled, List.takeWhile_cons_of_neg (by simpa using first)]
    rfl
  rw [ofText, start, Text.pieces_of_notMem notSlash, List.filter_cons_of_pos (by simp [isName, filled, notDot]),
    List.filter_nil, List.map_singleton, Text.ofList_toList]

/-- The child of a folder by a proper name is an entry of the folder. -/
theorem IsFileName.isEntry (proper : IsFileName name) (folder : Path) : folder.IsEntry name (folder.child name) where
  proper := proper
  child := rfl
  follows := by
    rw [proper.ofText_eq]
    rfl
  place := by
    intro disk place found
    have there := place?_of_locate found
    have through := there
    rw [place?_child] at through
    obtain ⟨here, stands, -⟩ := Option.bind_eq_some_iff.mp through
    exact ⟨here, stands, place_of_child stands proper.notDots there⟩

/-- Two proper names make one. -/
theorem IsFileName.append (front : IsFileName name) (back : IsFileName ending) : IsFileName (name ++ ending) := by
  have filled : name.toList ≠ [] := fun empty => front.filled (Text.toList_eq_nil_iff.mp empty)
  have filled' : ending.toList ≠ [] := fun empty => back.filled (Text.toList_eq_nil_iff.mp empty)
  have texts : (name ++ ending).toList = name.toList ++ ending.toList := Text.toList_append name ending
  refine ⟨fun same => ?_, fun same => ?_, fun same => ?_, fun c mem => ?_⟩
  · rw [same] at texts
    exact filled (List.append_eq_nil_iff.mp texts.symm).1
  · rw [same] at texts
    rcases List.append_eq_singleton_iff.mp texts.symm with ⟨empty, -⟩ | ⟨-, empty⟩
    · exact filled empty
    · exact filled' empty
  · rw [same] at texts
    -- neither part is empty, so each of them is one dot
    rcases List.append_eq_cons_iff.mp texts.symm with ⟨empty, -⟩ | ⟨left, dot, remains⟩
    · exact filled empty
    · rcases List.append_eq_singleton_iff.mp remains.symm with ⟨rfl, -⟩ | ⟨-, empty⟩
      · exact front.notDot (Text.toList_inj.mp dot)
      · exact filled' empty
  · rw [texts] at mem
    exact (List.mem_append.mp mem).elim (front.solid c) (back.solid c)

/-- Different names in a folder make different paths. -/
theorem child_injective (folder : Path) : Function.Injective folder.child := by
  intro name other same
  have names : folder.names ++ [name] = folder.names ++ [other] := congrArg Path.names same
  exact List.singleton_inj.mp (List.append_cancel_left names)

end Path

namespace Store

variable {store : Store} {listId other : Text} {path path' : Path} {list : TaskList} {host : Host} {failure : Failure}

/-- What can name a list is what can name a file. -/
theorem isListId_iff : isListId listId = true ↔ Path.IsFileName listId := by
  rw [isListId]
  constructor
  · intro h
    simp only [Bool.and_eq_true, decide_eq_true_eq, List.all_eq_true] at h
    obtain ⟨⟨⟨filled, notDot⟩, notDots⟩, solid⟩ := h
    refine ⟨filled, notDot, notDots, fun c mem => ?_⟩
    obtain ⟨⟨notSlash, notBackslash⟩, notNull⟩ := solid c mem
    exact ⟨notSlash, notBackslash, notNull⟩
  · intro h
    simp only [Bool.and_eq_true, decide_eq_true_eq, List.all_eq_true]
    refine ⟨⟨⟨h.filled, h.notDot⟩, h.notDots⟩, fun c mem => ?_⟩
    obtain ⟨notSlash, notBackslash, notNull⟩ := h.solid c mem
    exact ⟨⟨notSlash, notBackslash⟩, notNull⟩

/-- An identifier that is not a proper name of a file is refused. -/
theorem filePath_eq_error_iff : store.filePath listId = .error failure ↔
    ¬ Path.IsFileName listId ∧ failure = .invalid (.badListId listId) := by
  rw [← isListId_iff, filePath]
  constructor
  · intro refused
    split at refused
    · cases refused
    · next improper =>
      cases refused
      exact ⟨improper, rfl⟩
  · rintro ⟨improper, rfl⟩
    rw [if_neg improper]

/-- A proper name of a file names a list. -/
theorem filePath_of_isFileName (proper : Path.IsFileName listId) :
    store.filePath listId = .ok (store.folder.child (listId ++ ".json")) := by
  rw [filePath, if_pos (isListId_iff.mpr proper)]

/-- The file of a list and the file beside it are entries of the folder. -/
theorem isEntry_filePath (proper : Path.IsFileName listId) :
    ∃ path, store.filePath listId = .ok path ∧ store.folder.IsEntry (listId ++ ".json") path ∧
      store.folder.IsEntry (listId ++ ".json" ++ ".tmp") (beside path) := by
  have named : store.filePath listId = .ok (store.folder.child (listId ++ ".json")) := filePath_of_isFileName proper
  have file : Path.IsFileName (listId ++ ".json") := proper.append (isListId_iff.mp (by decide))
  have fileBeside : Path.IsFileName (listId ++ ".json" ++ ".tmp") := file.append (isListId_iff.mp (by decide))
  refine ⟨_, named, file.isEntry store.folder, ?_⟩
  rw [beside_filePath named]
  exact fileBeside.isEntry store.folder

/-- The files of two lists and the files beside them are four. -/
theorem filePath_apart (ne : listId ≠ other) (named : store.filePath listId = .ok path)
    (named' : store.filePath other = .ok path') : [path, path', beside path, beside path'].Nodup := by
  have files : listId ++ ".json" ≠ other ++ ".json" := fun same => ne (fileName_injective same)
  have besides : listId ++ ".json" ++ ".tmp" ≠ other ++ ".json" ++ ".tmp" :=
    fun same => files (Text.append_left_inj.mp same)
  have names : [listId ++ ".json", other ++ ".json", listId ++ ".json" ++ ".tmp",
      other ++ ".json" ++ ".tmp"].Nodup := by
    simp [files, besides, fileName_ne_beside]
  have paths := List.Nodup.map (Path.child_injective store.folder) names
  rw [beside_filePath named, beside_filePath named', filePath_eq named, filePath_eq named']
  exact paths

/-- An identifier that is refused, and under which nothing is in memory, makes every operation fail before the disk is
looked at. -/
theorem perform_of_unnamed (operation : Operation) (host : Host) (absent : store.lists.find? listId = none)
    (unnamed : store.filePath listId = .error failure) :
    (store.lookUp listId host.disk).touched = false ∧
      store.perform listId operation host = ⟨.error failure, store, host.disk, [], false, false⟩ := by
  have looked : store.lookUp listId host.disk = .unnamed failure := by
    simp only [lookUp, absent, unnamed]
  rw [perform, looked]
  exact ⟨rfl, rfl⟩

/-- Whether all lists in memory have identifiers that name files. -/
def Filed (store : Store) : Prop :=
  ∀ listId list, store.lists.find? listId = some list → ∃ path, store.filePath listId = .ok path

/-- A store with nothing in memory keeps no list under another identifier. -/
theorem filed_empty (folder : Path) (spare : Nat) : Filed ⟨folder, .empty, spare⟩ := fun _ _ held => nomatch held

/-- A list that is opened has an identifier that names a file. -/
theorem Filed.named (filed : store.Filed) (opened : store.openedList listId host = .ok list) :
    ∃ path, store.filePath listId = .ok path := by
  cases opens_of_openedList opened with
  | inMemory held => exact filed listId list held
  | fetched absent named found => exact ⟨_, named⟩

/-- No list is under an identifier that is refused. -/
theorem Filed.absent (filed : store.Filed) (refused : store.filePath listId = .error failure) :
    store.lists.find? listId = none := by
  cases held : store.lists.find? listId with
  | none => rfl
  | some list =>
    obtain ⟨path, named⟩ := filed listId list held
    cases refused.symm.trans named

/-- One more list under such an identifier. -/
theorem Filed.hold (filed : store.Filed) (named : ∃ path, store.filePath listId = .ok path) :
    (store.hold listId list).Filed := by
  intro other list' held
  rw [find?_hold] at held
  split at held
  · next same =>
    subst same
    exact named
  · exact filed other list' held

/-- Operations keep lists under such identifiers only. -/
theorem Filed.perform (filed : store.Filed) (listId : Text) (operation : Operation) (host : Host) :
    (store.perform listId operation host).store.Filed := by
  have course := course_perform store listId operation host
  generalize store.perform listId operation host = outcome at course
  cases course with
  | unopened failure entries failed => exact filed
  | unchanged result entries opened idle honest => exact filed.hold (filed.named opened)
  | unsaved failure entries opened left undated => exact filed.hold (filed.named opened)
  | saved entries opened changed course => exact filed.hold (filed.named opened)

end Store

namespace Site

/-- Every event leaves lists under identifiers that name files only. -/
theorem filed_advance {site : Site} (filed : site.store.Filed) (event : Event) :
    (site.advance event).store.Filed := by
  cases event with
  | call moment listId operation => exact filed.perform listId operation _
  | restart => exact Store.filed_empty _ _
  | foreign change => exact filed

/-- So does a run. -/
theorem filed_run {site : Site} (filed : site.store.Filed) (events : List Event) :
    (site.run events).store.Filed := by
  induction events generalizing site with
  | nil => exact filed
  | cons event events ih => exact ih (filed_advance filed event)

/-- Every store that was used from its beginning keeps lists under identifiers that name files. -/
theorem filed_opened (dataFolder : Path) (disk : Disk) (spare : Nat) (events : List Event) :
    ((opened dataFolder disk spare).run events).store.Filed :=
  filed_run (Store.filed_empty _ _) events

/-- Where a store keeps its files, in every run and for every identifier. It is refused exactly if it is not a proper
name of a file; then nothing is in memory under it, and every operation fails with that refusal, whatever the disk
holds, which is neither read nor written, and the store stays as it is. Any other identifier gives a file and a file
beside it, both of them entries of the task folder. The four files of two different identifiers are different. -/
theorem listIds_confined (dataFolder : Path) (disk : Disk) (spare : Nat) (events : List Event) :
    let store := ((opened dataFolder disk spare).run events).store
    let folder := dataFolder.child "tasks"
    (∀ listId, Path.IsFileName listId → ∃ path, store.filePath listId = .ok path ∧
      folder.IsEntry (listId ++ ".json") path ∧
      folder.IsEntry (listId ++ ".json" ++ ".tmp") (Store.beside path)) ∧
    (∀ listId, ¬ Path.IsFileName listId →
      store.filePath listId = .error (.invalid (.badListId listId)) ∧ store.lists.find? listId = none ∧
      ∀ (moment : Moment) (files : Disk) (operation : Operation), (store.lookUp listId files).touched = false ∧
        store.perform listId operation (moment.host files) =
          ⟨.error (.invalid (.badListId listId)), store, files, [], false, false⟩) ∧
    ∀ listId other path path', listId ≠ other → store.filePath listId = .ok path → store.filePath other = .ok path' →
      [path, path', Store.beside path, Store.beside path'].Nodup := by
  intro store folder
  have tasks : store.folder = folder := folder_run (opened dataFolder disk spare) events
  refine ⟨fun listId proper => ?_, fun listId improper => ?_, fun listId other path path' => Store.filePath_apart⟩
  · rw [← tasks]
    exact Store.isEntry_filePath proper
  · have refused : store.filePath listId = .error (.invalid (.badListId listId)) :=
      Store.filePath_eq_error_iff.mpr ⟨improper, rfl⟩
    have absent : store.lists.find? listId = none := (filed_opened dataFolder disk spare events).absent refused
    exact ⟨refused, absent, fun moment files operation =>
      Store.perform_of_unnamed operation (moment.host files) absent refused⟩

/-- A list is made under a name, and somebody tries to reach it by way of the folder above. -/
def roundabout : List Event :=
  [.call (.calm 5) "a" (.create "s" ""), .call (.calm 6) "../tasks/a" (.create "s" "")]

/-- An identifier that looks like the file beside that of another list still has files of its own, and a way around to
a file of the folder is refused. -/
theorem listIds_confined_lookalike :
    let store := ((opened ⟨.here, ["d"]⟩ .empty 0).run roundabout).store
    let folder : Path := ⟨.here, ["d", "tasks"]⟩
    (∃ path, store.filePath "a.json.tmp" = .ok path ∧ folder.IsEntry "a.json.tmp.json" path) ∧
      [folder.child "a.json", folder.child "a.json.tmp.json", folder.child "a.json.tmp",
        folder.child "a.json.tmp.json.tmp"].Nodup ∧
      store.lists.find? "../tasks/a" = none ∧
      (store.perform "../tasks/a" (.get "1") ((Moment.calm 7).host .empty)).result =
        .error (.invalid (.badListId "../tasks/a")) := by
  intro store folder
  obtain ⟨accepted, refused, apart⟩ := listIds_confined ⟨.here, ["d"]⟩ .empty 0 roundabout
  obtain ⟨path, named, entry, besideEntry⟩ := accepted "a" (Store.isListId_iff.mp (by decide))
  obtain ⟨path', named', entry', besideEntry'⟩ := accepted "a.json.tmp" (Store.isListId_iff.mp (by decide))
  obtain ⟨-, absent, fails⟩ := refused "../tasks/a" fun proper => (proper.solid '/' (by decide)).1 rfl
  have paths := apart "a" "a.json.tmp" path path' (by decide) named named'
  rw [besideEntry.child, besideEntry'.child, entry.child, entry'.child] at paths
  refine ⟨⟨path', named', entry'⟩, paths, absent, ?_⟩
  rw [(fails (.calm 7) .empty (.get "1")).2]

end Site

end Taskboard
