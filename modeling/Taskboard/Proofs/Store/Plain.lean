import Taskboard.Proofs.Json.Letters
import Taskboard.Proofs.Store.Operation

/-!
# Lists without surrogates

A text is plain if no surrogate stands in it, and a list is plain if its keys and all texts of its tasks are. A list
whose numbers can be written is saved exactly if it is plain. An operation with plain texts makes a plain list of a
plain one.
-/

namespace Taskboard

open Json

/-- Whether no surrogate stands in a text. -/
def Text.IsPlain (text : Text) : Prop := ∀ offset, .surrogate offset ∉ text.toList

theorem Text.isPlain_ofString (s : String) : (ofString s).IsPlain := by
  intro offset mem
  obtain ⟨letter, -, same⟩ := List.mem_map.mp mem
  cases same

theorem Text.isPlain_natText (n : Nat) : (Decimal.natText n).IsPlain := by
  intro offset mem
  cases Decimal.isDigit_of_mem_ofNat mem

/-- The texts that a change supplies. -/
def Change.texts (change : Change) : List Text :=
  change.subject.toList ++ change.description.toList ++ change.owner.toList ++ change.blockedBy.getD []

/-- The texts that an operation may put into a list. -/
def Operation.texts : Operation → List Text
  | .create subject description => [subject, description]
  | .update _ change => change.texts
  | .claim _ owner => [owner]
  | .list _ | .get _ => []

/-- Whether all of them are plain. -/
def Operation.IsPlain (operation : Operation) : Prop := ∀ text ∈ operation.texts, text.IsPlain

namespace Task

variable {task : Task}

/-- The texts of a task. -/
def texts (task : Task) : List Text :=
  task.id :: task.subject :: task.description :: (task.owner.toList ++ task.blocks ++ task.blockedBy)

/-- Whether all texts of a task are plain. -/
def IsPlain (task : Task) : Prop := ∀ text ∈ task.texts, text.IsPlain

/-- A surrogate stands in the record of a task exactly if it stands in one of its texts. -/
theorem holds_toJson (offset : Fin 0x800) :
    Holds (.surrogate offset) task.toJson ↔ ∃ text ∈ task.texts, .surrogate offset ∈ text.toList := by
  have word : .surrogate offset ∉ task.status.word.toList := by
    cases task.status <;> exact Text.isPlain_ofString _ offset
  have all (texts : List Text) : Holds (.surrogate offset) (.list (texts.map .string)) ↔
      ∃ text ∈ texts, .surrogate offset ∈ text.toList := by
    rw [holds_list]
    constructor
    · rintro ⟨item, mem, holds⟩
      obtain ⟨text, given, rfl⟩ := List.mem_map.mp mem
      exact ⟨text, given, holds_string.mp holds⟩
    · rintro ⟨text, mem, here⟩
      exact ⟨.string text, List.mem_map_of_mem mem, .string here⟩
  have number (n : Int) : ¬ Holds (.surrogate offset) (.int n) := fun holds => by cases holds
  have null : ¬ Holds (.surrogate offset) .null := fun holds => by cases holds
  rw [toJson, holds_object, texts]
  cases task.owner with
  | none => simp [holds_string, all, number, null, word, or_and_right, exists_or]
  | some owner => simp [holds_string, all, number, word, or_and_right, exists_or]

/-- A change of time changes no text. -/
@[simp]
theorem texts_touched (task : Task) (now : Except QuantityFault Int) : (task.touched now).texts = task.texts := by
  cases now <;> rfl

/-- A changed task is plain if the task is and all that is supplied. -/
theorem IsPlain.apply {change : Change} (plain : task.IsPlain) (supplied : ∀ text ∈ change.texts, text.IsPlain) :
    (task.apply change).IsPlain := by
  have one {given : Option Text} {old : Text} (new : ∀ text ∈ given.toList, text.IsPlain) (kept : old.IsPlain) :
      (given.getD old).IsPlain := by
    cases given with
    | none => exact kept
    | some text => exact new text (by simp)
  simp only [Change.texts, List.forall_mem_append] at supplied
  obtain ⟨⟨⟨subject, description⟩, owner⟩, blockedBy⟩ := supplied
  simp only [IsPlain, texts, List.forall_mem_cons, List.forall_mem_append] at plain ⊢
  obtain ⟨id, subject', description', ⟨owner', blocks⟩, blockedBy'⟩ := plain
  refine ⟨id, one subject subject', one description description', ⟨?_, blocks⟩, ?_⟩
  · show ∀ text ∈ (change.owner.orElse fun _ => task.owner).toList, text.IsPlain
    cases new : change.owner with
    | none => exact owner'
    | some text =>
      rw [new] at owner
      exact owner
  · show ∀ text ∈ change.blockedBy.getD task.blockedBy, text.IsPlain
    cases new : change.blockedBy with
    | none => exact blockedBy'
    | some ids =>
      rw [new] at blockedBy
      exact blockedBy

/-- A claimed task is plain if the task is and its owner. -/
theorem IsPlain.claimedBy {owner : Text} (plain : task.IsPlain) (owned : owner.IsPlain) :
    (task.claimedBy owner).IsPlain := by
  simp only [IsPlain, texts, List.forall_mem_cons, List.forall_mem_append] at plain ⊢
  obtain ⟨id, subject, description, ⟨-, blocks⟩, blockedBy⟩ := plain
  exact ⟨id, subject, description, ⟨List.forall_mem_singleton.mpr owned, blocks⟩, blockedBy⟩

end Task

namespace TaskList

variable {list : TaskList}

/-- Whether the keys of a list and all texts of its tasks are plain. -/
def IsPlain (list : TaskList) : Prop :=
  ∀ key task, list.find? key = some task → key.IsPlain ∧ task.IsPlain

/-- A list is plain if no surrogate stands in its record. -/
theorem isPlain_iff : list.IsPlain ↔ ∀ offset, ¬ Holds (.surrogate offset) list.toJson := by
  have record (offset : Fin 0x800) : Holds (.surrogate offset) list.toJson ↔
      ∃ entry ∈ list.tasks.entries, .surrogate offset ∈ entry.1.toList ∨
        Holds (.surrogate offset) entry.2.toJson := by
    have number (n : Int) : ¬ Holds (.surrogate offset) (.int n) := fun holds => by cases holds
    have tasks : Holds (.surrogate offset) (.object (list.tasks.entries.map fun entry => (entry.1, entry.2.toJson))) ↔
        ∃ entry ∈ list.tasks.entries, .surrogate offset ∈ entry.1.toList ∨
          Holds (.surrogate offset) entry.2.toJson := by
      rw [holds_object]
      constructor
      · rintro ⟨member, mem, holds⟩
        obtain ⟨entry, stored, rfl⟩ := List.mem_map.mp mem
        exact ⟨entry, stored, holds⟩
      · rintro ⟨entry, mem, holds⟩
        exact ⟨_, List.mem_map_of_mem mem, holds⟩
    rw [toJson, holds_object]
    simp [number, tasks]
  simp only [record, Task.holds_toJson]
  constructor
  · rintro plain offset ⟨⟨key, task⟩, mem, here | ⟨text, given, here⟩⟩
    · exact (plain key task (Keyed.find?_eq_some_iff.mpr mem)).1 offset here
    · exact (plain key task (Keyed.find?_eq_some_iff.mpr mem)).2 text given offset here
  · intro clean key task found
    have mem := Keyed.find?_eq_some_iff.mp found
    refine ⟨fun offset here => clean offset ⟨_, mem, .inl here⟩, fun text given offset here => ?_⟩
    exact clean offset ⟨_, mem, .inr ⟨text, given, here⟩⟩

/-- A list whose numbers can be written is saved exactly if it is plain. -/
theorem save_surrogate_iff : (∃ fault, list.save = .error (.surrogate fault)) ↔
    list.toJson.holdsLongInteger = false ∧ ¬ list.IsPlain := by
  rw [save]
  cases short : list.toJson.holdsLongInteger with
  | true => simp
  | false =>
    have readable := readable_toJson 0 short
    have encoded := @Utf8.encode_eq_ok_iff list.toJson.written
    simp only [Json.surrogate_mem_written readable, ← isPlain_iff] at encoded
    rw [if_neg Bool.false_ne_true]
    cases result : Utf8.encode list.toJson.written with
    | ok bytes =>
      have plain := (encoded.mp result).1
      refine iff_of_false ?_ fun both => both.2 plain
      rintro ⟨fault, same⟩
      cases same
    | error fault =>
      refine iff_of_true ⟨fault, rfl⟩ ⟨rfl, fun plain => ?_⟩
      have fine := encoded.mpr ⟨plain, rfl⟩
      cases result.symm.trans fine

/-- A plain task may be put into a plain list under a plain key. -/
theorem IsPlain.put {key : Text} {task : Task} (plain : list.IsPlain) (named : key.IsPlain) (written : task.IsPlain) :
    (list.put key task).IsPlain := by
  intro other stored found
  rw [find?_put] at found
  split at found
  · next same =>
    cases found
    exact ⟨same ▸ named, written⟩
  · exact plain other stored found

/-- An operation with plain texts makes a plain list of a plain one. -/
theorem IsPlain.becomes {now : Except QuantityFault Int} {operation : Operation} {after : TaskList}
    (plain : list.IsPlain) (given : operation.IsPlain) (becomes : Becomes list now operation after) :
    after.IsPlain := by
  cases becomes with
  | @created subject description second shown short =>
    have key := Text.isPlain_natText list.nextId
    have grown : TaskList.IsPlain { list with nextId := list.nextId + 1 } := plain
    refine grown.put key ?_
    simpa [Task.IsPlain, Task.texts, Task.fresh, key, Operation.IsPlain, Operation.texts] using given
  | @updated taskId change task found =>
    obtain ⟨named, written⟩ := plain taskId task found
    refine plain.put named ?_
    rw [Task.IsPlain, Task.texts_touched]
    exact written.apply given
  | @claimed taskId owner task found pending free =>
    obtain ⟨named, written⟩ := plain taskId task found
    refine plain.put named ?_
    rw [Task.IsPlain, Task.texts_touched]
    exact written.claimedBy (given owner List.mem_cons_self)

end TaskList

end Taskboard
