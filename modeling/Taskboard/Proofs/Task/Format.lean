import Mathlib.Data.List.Forall2
import Taskboard.Proofs.Json.Distinct
import Taskboard.Proofs.Task.Record

/-!
# The format of saved lists

The format of a list record is set down by kinds of members: which members an object has, which it may have, and
of which kind each of them is. Beside it stands what a record says: the values that it gives, and the defaults of
the members that it leaves out. The decoder accepts a document exactly if it has the format, and then it yields
the one list that the document records. Members that neither part speaks of have no influence.
-/

namespace Taskboard

namespace Json

/-- A text. -/
def IsText (value : Json) : Prop := ∃ text, value = .string text

/-- An integer. Truth values are none, nor are numbers written with a point or a power. -/
def IsInteger (value : Json) : Prop := ∃ n, value = .int n

/-- A list of texts. -/
def IsTexts (value : Json) : Prop := ∃ items, value = .list items ∧ ∀ item ∈ items, item.IsText

/-- One of the three words for a status. -/
def IsStatus (value : Json) : Prop :=
  value = .string "pending" ∨ value = .string "in_progress" ∨ value = .string "completed"

/-- A text or null. -/
def IsOwner (value : Json) : Prop := value = .null ∨ value.IsText

theorem isTexts_iff {value : Json} :
    value.IsTexts ↔ ∃ texts : List Text, value = .list (texts.map Json.string) := by
  constructor
  · rintro ⟨items, rfl, each⟩
    induction items with
    | nil => exact ⟨[], rfl⟩
    | cons item items ih =>
      obtain ⟨⟨text, rfl⟩, rest⟩ := List.forall_mem_cons.mp each
      obtain ⟨texts, e⟩ := ih rest
      cases e
      exact ⟨text :: texts, rfl⟩
  · rintro ⟨texts, rfl⟩
    refine ⟨_, rfl, fun item mem => ?_⟩
    obtain ⟨text, -, e⟩ := List.mem_map.mp mem
    exact ⟨text, e.symm⟩

theorem isStatus_iff {value : Json} : value.IsStatus ↔ ∃ status : Status, value = .string status.word := by
  constructor
  · rintro (e | e | e)
    · exact ⟨.pending, e⟩
    · exact ⟨.inProgress, e⟩
    · exact ⟨.completed, e⟩
  · rintro ⟨status, e⟩
    cases status with
    | pending => exact .inl e
    | inProgress => exact .inr (.inl e)
    | completed => exact .inr (.inr e)

/-- The texts of a list are what its items are made of. -/
theorem strings?_eq_some_iff {value : Json} {texts : List Text} :
    value.strings? = some texts ↔ value = .list (texts.map Json.string) := by
  constructor
  · intro h
    cases value with
    | list items =>
      rw [strings?] at h
      refine congrArg Json.list ?_
      induction items generalizing texts with
      | nil => cases h; rfl
      | cons item items ih =>
        rw [List.mapM_cons] at h
        cases item with
        | string text =>
          obtain ⟨first, same, rest⟩ := Option.bind_eq_some_iff.mp h
          obtain ⟨others, read, e⟩ := Option.bind_eq_some_iff.mp rest
          cases same
          cases e
          rw [ih read, List.map_cons]
        | _ => cases h
    | _ => cases h
  · rintro rfl
    exact Task.strings?_list texts

end Json

namespace Record

variable {members : List (Text × Json)} {name : Text} {kind : Json → Prop} {value default : Json}

/-- There is a member of the name, of the kind. -/
def Has (members : List (Text × Json)) (name : Text) (kind : Json → Prop) : Prop :=
  ∃ value, (name, value) ∈ members ∧ kind value

/-- A member of the name, if there is one, is of the kind. -/
def May (members : List (Text × Json)) (name : Text) (kind : Json → Prop) : Prop :=
  ∀ value, (name, value) ∈ members → kind value

/-- The format of a task record. -/
structure IsTask (members : List (Text × Json)) : Prop where
  /-- The identifier. -/
  id : Has members "id" Json.IsText
  /-- The summary. -/
  subject : Has members "subject" Json.IsText
  /-- The status. -/
  status : Has members "status" Json.IsStatus
  /-- The second at which the task was made. -/
  createdAt : Has members "created_at" Json.IsInteger
  /-- The second of the last change. -/
  updatedAt : Has members "updated_at" Json.IsInteger
  /-- The longer text. -/
  description : May members "description" Json.IsText
  /-- The owner. -/
  owner : May members "owner" Json.IsOwner
  /-- The tasks said to wait for this one. -/
  blocks : May members "blocks" Json.IsTexts
  /-- The tasks that this one waits for. -/
  blockedBy : May members "blocked_by" Json.IsTexts

/-- The format of a list record: a counter that is past the number of every key, and task records. -/
def IsList (value : Json) : Prop :=
  ∃ members nextId records, value = .object members ∧
    (Text.ofString "next_id", .int nextId) ∈ members ∧ (Text.ofString "tasks", .object records) ∈ members ∧
    (∀ record ∈ records, ∃ fields, record.2 = .object fields ∧ IsTask fields) ∧
    1 ≤ nextId ∧ ∀ record ∈ records, Task.numericId record.1 < nextId

/-- What an object says under a name: the value of the member, or a default where there is none. -/
def Gives (members : List (Text × Json)) (name : Text) (default value : Json) : Prop :=
  (name, value) ∈ members ∨ name ∉ members.map Prod.fst ∧ value = default

/-- What is looked up, with the default, is what the object says. -/
theorem getD_find?_eq_iff (distinct : (members.map Prod.fst).Nodup) :
    (Entries.find? name members).getD default = value ↔ Gives members name default value := by
  rw [Gives, ← Entries.find?_eq_some_iff distinct, ← Entries.find?_isSome_iff]
  cases Entries.find? name members with
  | none => simp [eq_comm]
  | some found => simp

/-- Null for a missing member is what no required member is. -/
theorem gives_null_iff (h : value ≠ .null) : Gives members name .null value ↔ (name, value) ∈ members :=
  ⟨fun gives => gives.resolve_right fun absent => h absent.2, .inl⟩

/-- A member that may be there is there, of the kind, or its default is what the object says. -/
theorem may_iff (distinct : (members.map Prod.fst).Nodup) (usual : kind default) :
    May members name kind ↔ ∃ value, Gives members name default value ∧ kind value := by
  constructor
  · intro may
    cases found : Entries.find? name members with
    | none =>
      have absent : name ∉ members.map Prod.fst := by simp [← Entries.find?_isSome_iff, found]
      exact ⟨default, .inr ⟨absent, rfl⟩, usual⟩
    | some value =>
      have mem := (Entries.find?_eq_some_iff distinct).mp found
      exact ⟨value, .inl mem, may value mem⟩
  · rintro ⟨value, mem | ⟨absent, rfl⟩, fits⟩ other mem'
    · have first := (Entries.find?_eq_some_iff distinct).mpr mem
      have second := (Entries.find?_eq_some_iff distinct).mpr mem'
      rw [first] at second
      exact Option.some.inj second ▸ fits
    · exact absurd (List.mem_map_of_mem mem') absent

theorem textField_eq_ok_iff {field text : Text} : textField field value = .ok text ↔ value = .string text := by
  cases value <;> simp [textField, Json.string?]

theorem integerField_eq_ok_iff {field : Text} {n : Int} :
    integerField field value = .ok n ↔ value = .int n := by
  cases value <;> simp [integerField, Json.int?]

theorem textsField_eq_ok_iff {field : Text} {texts : List Text} :
    textsField field value = .ok texts ↔ value = .list (texts.map Json.string) := by
  rw [← Json.strings?_eq_some_iff, textsField]
  cases value.strings? <;> simp

theorem statusField_eq_ok_iff {status : Status} : statusField value = .ok status ↔ value = .string status.word := by
  constructor
  · intro h
    unfold statusField at h
    split at h
    · next found some =>
      cases h
      obtain ⟨word, e, known⟩ := Option.bind_eq_some_iff.mp some
      have same : status.word = word := by simpa using List.find?_some known
      cases value <;> simp_all [Json.string?]
    · cases h
  · rintro rfl
    rw [statusField, Json.string?, Option.bind_some, Status.ofWord?_word]

/-- The form of an owner. -/
def ownerForm (owner : Option Text) : Json := owner.elim .null .string

theorem ownerField_eq_ok_iff {owner : Option Text} : ownerField value = .ok owner ↔ value = ownerForm owner := by
  cases value <;> cases owner <;> simp [ownerField, ownerForm]

/-- The owners are null and the texts. -/
theorem isOwner_iff : value.IsOwner ↔ ∃ owner, value = ownerForm owner := by
  constructor
  · rintro (e | ⟨text, e⟩)
    · exact ⟨none, e⟩
    · exact ⟨some text, e⟩
  · rintro ⟨_ | text, e⟩
    · exact .inl e
    · exact .inr ⟨text, e⟩

end Record

/-- A step followed by another is a success exactly if both are. -/
theorem bind_eq_ok_iff {α β : Type} {step : Except RecordFault α} {next : α → Except RecordFault β} {result : β} :
    (step >>= next) = .ok result ↔ ∃ value, step = .ok value ∧ next value = .ok result := by
  cases step with
  | error fault =>
    constructor
    · exact fun h => nomatch h
    · rintro ⟨_, e, -⟩
      cases e
  | ok value =>
    constructor
    · exact fun h => ⟨value, rfl, h⟩
    · rintro ⟨_, e, h⟩
      cases e
      exact h

namespace Task

open Record

/-- The task is what the members of a record say. -/
structure Recorded (members : List (Text × Json)) (task : Task) : Prop where
  /-- The identifier is given. -/
  id : (Text.ofString "id", .string task.id) ∈ members
  /-- The summary is given. -/
  subject : (Text.ofString "subject", .string task.subject) ∈ members
  /-- The status is given. -/
  status : (Text.ofString "status", .string task.status.word) ∈ members
  /-- The second at which the task was made is given. -/
  createdAt : (Text.ofString "created_at", .int task.createdAt) ∈ members
  /-- The second of the last change is given. -/
  updatedAt : (Text.ofString "updated_at", .int task.updatedAt) ∈ members
  /-- The longer text is given, or empty. -/
  description : Gives members "description" (.string "") (.string task.description)
  /-- The owner is given, or nobody. -/
  owner : Gives members "owner" .null (ownerForm task.owner)
  /-- The tasks said to wait for this one are given, or there are none. -/
  blocks : Gives members "blocks" (.list []) (.list (task.blocks.map Json.string))
  /-- The tasks that this one waits for are given, or there are none. -/
  blockedBy : Gives members "blocked_by" (.list []) (.list (task.blockedBy.map Json.string))

variable {members : List (Text × Json)} {task : Task}

/-- The members are read as the task that they say. -/
theorem ofMembers_eq_ok_iff (distinct : (members.map Prod.fst).Nodup) :
    ofMembers members = .ok task ↔ task.Recorded members := by
  simp only [ofMembers, bind_eq_ok_iff, statusField_eq_ok_iff, ownerField_eq_ok_iff, textField_eq_ok_iff,
    integerField_eq_ok_iff, textsField_eq_ok_iff, getD_find?_eq_iff distinct]
  constructor
  · rintro ⟨status, status', owner, owner', id, id', subject, subject', description, description',
      createdAt, createdAt', updatedAt, updatedAt', blocks, blocks', blockedBy, blockedBy', e⟩
    cases e
    exact ⟨(gives_null_iff (by simp)).mp id', (gives_null_iff (by simp)).mp subject',
      (gives_null_iff (by simp)).mp status', (gives_null_iff (by simp)).mp createdAt',
      (gives_null_iff (by simp)).mp updatedAt', description', owner', blocks', blockedBy'⟩
  · intro h
    exact ⟨_, .inl h.status, _, h.owner, _, .inl h.id, _, .inl h.subject, _, h.description, _, .inl h.createdAt,
      _, .inl h.updatedAt, _, h.blocks, _, h.blockedBy, rfl⟩

/-- A record that says a task has every required member. -/
theorem Recorded.complete (h : task.Recorded members) :
    requiredFields.filter (fun name => (Entries.find? name members).isNone) = [] := by
  have found {name : Text} {value : Json} (mem : (name, value) ∈ members) :
      ¬ (Entries.find? name members).isNone = true := by
    have known := (Entries.find?_isSome_iff name members).mpr (List.mem_map_of_mem mem)
    simp [Option.isNone_iff_eq_none, Option.isSome_iff_ne_none.mp known]
  refine List.filter_eq_nil_iff.mpr ?_
  simp only [requiredFields, List.forall_mem_cons, List.not_mem_nil, false_implies, implies_true, and_true]
  exact ⟨found h.id, found h.subject, found h.status, found h.createdAt, found h.updatedAt⟩

/-- A record is read as the task that it says. -/
theorem ofJson_eq_ok_iff (distinct : (members.map Prod.fst).Nodup) :
    ofJson (.object members) = .ok task ↔ task.Recorded members := by
  rw [← ofMembers_eq_ok_iff distinct, ofJson]
  constructor
  · intro h
    split at h
    · exact h
    · cases h
  · intro h
    have complete := ((ofMembers_eq_ok_iff distinct).mp h).complete
    rw [complete]
    exact h

/-- The records that say a task are those of the format. -/
theorem recorded_iff (distinct : (members.map Prod.fst).Nodup) :
    (∃ task : Task, task.Recorded members) ↔ IsTask members := by
  constructor
  · rintro ⟨task, h⟩
    exact {
      id := ⟨_, h.id, _, rfl⟩
      subject := ⟨_, h.subject, _, rfl⟩
      status := ⟨_, h.status, Json.isStatus_iff.mpr ⟨_, rfl⟩⟩
      createdAt := ⟨_, h.createdAt, _, rfl⟩
      updatedAt := ⟨_, h.updatedAt, _, rfl⟩
      description := (may_iff distinct ⟨"", rfl⟩).mpr ⟨_, h.description, _, rfl⟩
      owner := (may_iff distinct (.inl rfl)).mpr ⟨_, h.owner, isOwner_iff.mpr ⟨_, rfl⟩⟩
      blocks := (may_iff distinct ⟨[], rfl, by simp⟩).mpr ⟨_, h.blocks, Json.isTexts_iff.mpr ⟨_, rfl⟩⟩
      blockedBy := (may_iff distinct ⟨[], rfl, by simp⟩).mpr ⟨_, h.blockedBy, Json.isTexts_iff.mpr ⟨_, rfl⟩⟩ }
  · intro h
    obtain ⟨_, id', id, rfl⟩ := h.id
    obtain ⟨_, subject', subject, rfl⟩ := h.subject
    obtain ⟨_, status', isStatus⟩ := h.status
    obtain ⟨_, createdAt', createdAt, rfl⟩ := h.createdAt
    obtain ⟨_, updatedAt', updatedAt, rfl⟩ := h.updatedAt
    obtain ⟨_, description', description, rfl⟩ := (may_iff distinct ⟨"", rfl⟩).mp h.description
    obtain ⟨_, owner', isOwner⟩ := (may_iff distinct (.inl rfl)).mp h.owner
    obtain ⟨_, blocks', isBlocks⟩ := (may_iff distinct ⟨[], rfl, by simp⟩).mp h.blocks
    obtain ⟨_, blockedBy', isBlockedBy⟩ := (may_iff distinct ⟨[], rfl, by simp⟩).mp h.blockedBy
    obtain ⟨status, rfl⟩ := Json.isStatus_iff.mp isStatus
    obtain ⟨owner, rfl⟩ := isOwner_iff.mp isOwner
    obtain ⟨blocks, rfl⟩ := Json.isTexts_iff.mp isBlocks
    obtain ⟨blockedBy, rfl⟩ := Json.isTexts_iff.mp isBlockedBy
    exact ⟨⟨id, subject, description, status, createdAt, updatedAt, owner, blocks, blockedBy⟩,
      id', subject', status', createdAt', updatedAt', description', owner', blocks', blockedBy'⟩

end Task

namespace TaskList

open Record

/-- An entry of a list is what a member of the tasks says: the same key, and the task of the record. -/
def EntryRecorded (record : Text × Json) (entry : Text × Task) : Prop :=
  entry.1 = record.1 ∧ ∃ fields, record.2 = .object fields ∧ Task.Recorded fields entry.2

/-- The list is what a record says: the counter, and the tasks under their keys, in the order of the record. -/
def Recorded (value : Json) (list : TaskList) : Prop :=
  ∃ members records, value = .object members ∧
    (Text.ofString "next_id", .int list.nextId) ∈ members ∧ (Text.ofString "tasks", .object records) ∈ members ∧
    List.Forall₂ EntryRecorded records list.tasks.entries

variable {records : List (Text × Json)} {entries : List (Text × Task)} {value : Json} {list : TaskList}

/-- The keys are those of the records. -/
theorem keys_of_recorded (h : List.Forall₂ EntryRecorded records entries) :
    entries.map Prod.fst = records.map Prod.fst := by
  induction h with
  | nil => rfl
  | cons first _ ih => rw [List.map_cons, List.map_cons, first.1, ih]

/-- A member of the tasks is read as the entry that it says. -/
theorem entryRecorded_iff {key : Text} {value : Json} {entry : Text × Task} (distinct : value.Distinct) :
    EntryRecorded (key, value) entry ↔ ∃ task, Task.ofJson value = .ok task ∧ (key, task) = entry := by
  constructor
  · rintro ⟨same, fields, rfl, recorded⟩
    cases distinct with
    | object names each =>
      exact ⟨entry.2, (Task.ofJson_eq_ok_iff names).mpr recorded, Prod.ext same.symm rfl⟩
  · rintro ⟨task, read, rfl⟩
    cases distinct with
    | object names each => exact ⟨rfl, _, rfl, (Task.ofJson_eq_ok_iff names).mp read⟩
    | _ => cases read

/-- The task records are read as the entries that they say; induction along the records. -/
theorem readTasks_eq_ok_iff (distinct : ∀ record ∈ records, record.2.Distinct) :
    readTasks records = .ok entries ↔ List.Forall₂ EntryRecorded records entries := by
  induction records generalizing entries with
  | nil =>
    rw [List.forall₂_nil_left_iff, readTasks]
    exact ⟨fun h => (Except.ok.inj h).symm, fun h => congrArg Except.ok h.symm⟩
  | cons record records ih =>
    obtain ⟨key, value⟩ := record
    obtain ⟨first, rest⟩ := List.forall_mem_cons.mp distinct
    rw [List.forall₂_cons_left_iff, readTasks]
    simp only [bind_eq_ok_iff, ih rest, entryRecorded_iff first]
    constructor
    · rintro ⟨task, read, others, following, e⟩
      cases e
      exact ⟨_, others, ⟨task, read, rfl⟩, following, rfl⟩
    · rintro ⟨_, others, ⟨task, read, rfl⟩, following, rfl⟩
      exact ⟨task, read, others, following, rfl⟩

/-- The list that a document is read as is the one that it says. -/
theorem recorded_of_ofJson (distinct : value.Distinct) (h : ofJson value = .ok list) : list.Recorded value := by
  unfold ofJson at h
  split at h
  · next members =>
    cases distinct with
    | object names each =>
      split at h
      · next counter records counter' records' =>
        obtain ⟨entries, read, h⟩ := bind_eq_ok_iff.mp h
        obtain ⟨n, number, checked⟩ := bind_eq_ok_iff.mp h
        obtain rfl := integerField_eq_ok_iff.mp number
        have given := (Entries.find?_eq_some_iff names).mp counter'
        have tasks := (Entries.find?_eq_some_iff names).mp records'
        cases each _ tasks with
        | object keys records_distinct =>
          have recorded := (readTasks_eq_ok_iff records_distinct).mp read
          have stored : (Keyed.ofList entries).entries = entries :=
            Keyed.entries_ofList (keys_of_recorded recorded ▸ keys)
          simp only at checked
          split at checked
          · cases checked
          · next past =>
            -- The counter is kept as a natural number; it is the one that was read since the check let it pass.
            have positive : ((n.toNat : Nat) : Int) = n := by
              simp only [Bool.or_eq_true, decide_eq_true_eq] at past
              omega
            cases checked
            refine ⟨members, records, rfl, ?_, tasks, ?_⟩
            · rw [positive]
              exact given
            · rw [stored]
              exact recorded
      · cases h
      · cases h
  · cases h

/-- A document that says a list is read as that list, if the counter is ahead. -/
theorem ofJson_of_recorded (distinct : value.Distinct) (said : list.Recorded value) (ahead : list.CounterAhead) :
    ofJson value = .ok list := by
  obtain ⟨members, records, rfl, given, tasks, recorded⟩ := said
  cases distinct with
  | object names each =>
    cases each _ tasks with
    | object keys records_distinct =>
      have read := (readTasks_eq_ok_iff records_distinct).mpr recorded
      have stored : Keyed.ofList list.tasks.entries = list.tasks :=
        Keyed.ext (Keyed.entries_ofList list.tasks.distinct)
      have same : (⟨(list.nextId : Int).toNat, list.tasks⟩ : TaskList) = list := rfl
      have past : ¬ ((list.nextId : Int) < 1 || (list.nextId : Int) ≤ list.highest : Bool) = true := by
        have positive := ahead.positive
        have highest := ahead.highest_lt
        simp only [Bool.or_eq_true, decide_eq_true_eq]
        omega
      rw [ofJson, (Entries.find?_eq_some_iff names).mpr given, (Entries.find?_eq_some_iff names).mpr tasks]
      simp only [read, integerField, Json.int?, bind, Except.bind, stored, same, if_neg past]

/-- A document is read as the list that it says, if the counter of the list is ahead. -/
theorem ofJson_eq_ok_iff (distinct : value.Distinct) :
    ofJson value = .ok list ↔ list.Recorded value ∧ list.CounterAhead :=
  ⟨fun read => ⟨recorded_of_ofJson distinct read, counterAhead_of_ofJson read⟩,
    fun said => ofJson_of_recorded distinct said.1 said.2⟩

/-- The task records that say entries are those of the format; induction along the records. -/
theorem entriesRecorded_iff (distinct : ∀ record ∈ records, record.2.Distinct) :
    (∃ entries, List.Forall₂ EntryRecorded records entries) ↔
      ∀ record ∈ records, ∃ fields, record.2 = .object fields ∧ IsTask fields := by
  induction records with
  | nil => exact ⟨fun _ => by simp, fun _ => ⟨[], .nil⟩⟩
  | cons record records ih =>
    obtain ⟨key, value⟩ := record
    obtain ⟨first, rest⟩ := List.forall_mem_cons.mp distinct
    rw [List.forall_mem_cons, ← ih rest]
    constructor
    · rintro ⟨_, said⟩
      obtain ⟨_, others, ⟨-, fields, rfl, recorded⟩, following, -⟩ := List.forall₂_cons_left_iff.mp said
      cases first with
      | object names each => exact ⟨⟨fields, rfl, (Task.recorded_iff names).mp ⟨_, recorded⟩⟩, _, following⟩
    · rintro ⟨⟨fields, rfl, isTask⟩, entries, following⟩
      cases first with
      | object names each =>
        obtain ⟨task, recorded⟩ := (Task.recorded_iff names).mpr isTask
        exact ⟨(key, task) :: entries, .cons ⟨rfl, fields, rfl, recorded⟩ following⟩

/-- A document that says a list whose counter is ahead has the format. -/
theorem isList_of_recorded (distinct : value.Distinct) (said : list.Recorded value) (ahead : list.CounterAhead) :
    IsList value := by
  obtain ⟨members, records, rfl, given, tasks, recorded⟩ := said
  cases distinct with
  | object names each =>
    cases each _ tasks with
    | object keys records_distinct =>
      have positive := ahead.positive
      have formed := (entriesRecorded_iff records_distinct).mp ⟨_, recorded⟩
      refine ⟨members, list.nextId, records, rfl, given, tasks, formed, by omega, fun record mem => ?_⟩
      refine ahead.past record.1 ?_
      rw [Keyed.keys, keys_of_recorded recorded]
      exact List.mem_map_of_mem mem

/-- A document of the format says a list whose counter is ahead. -/
theorem recorded_of_isList (distinct : value.Distinct) (formed : IsList value) :
    ∃ list : TaskList, list.Recorded value ∧ list.CounterAhead := by
  obtain ⟨members, nextId, records, rfl, given, tasks, formed, positive, past⟩ := formed
  cases distinct with
  | object names each =>
    cases each _ tasks with
    | object keys records_distinct =>
      obtain ⟨entries, recorded⟩ := (entriesRecorded_iff records_distinct).mpr formed
      have same := keys_of_recorded recorded
      have counter : ((nextId.toNat : Nat) : Int) = nextId := by omega
      refine ⟨⟨nextId.toNat, entries, same ▸ keys⟩, ⟨members, records, rfl, ?_, tasks, recorded⟩, ?_, ?_⟩
      · rw [counter]
        exact given
      · show 1 ≤ nextId.toNat
        omega
      · intro key mem
        obtain ⟨record, mem', rfl⟩ := List.mem_map.mp (same ▸ mem : key ∈ records.map Prod.fst)
        show Task.numericId record.1 < (nextId.toNat : Int)
        rw [counter]
        exact past record mem'

/-- The decoder accepts exactly the documents of the format. What it yields for one is the list that the document
records, and no other; every other document breaks a rule of records, which is all that is said of its text. -/
theorem ofJson_exactly {spare : Nat} {text : List CodePoint} {value : Json}
    (read : Json.read (spare + depth) text = .ok value) :
    ((∃ list, ofJson value = .ok list) ↔ IsList value) ∧
      (∀ list, ofJson value = .ok list ↔ list.Recorded value ∧ list.CounterAhead) ∧
      (¬ IsList value → ∃ fault, ofJson value = .error fault ∧ ofText spare text = .error (.badRecord fault)) := by
  have distinct := Json.distinct_of_read read
  have accepted : (∃ list, ofJson value = .ok list) ↔ IsList value := by
    constructor
    · rintro ⟨list, decoded⟩
      obtain ⟨said, ahead⟩ := (ofJson_eq_ok_iff distinct).mp decoded
      exact isList_of_recorded distinct said ahead
    · intro formed
      obtain ⟨list, said, ahead⟩ := recorded_of_isList distinct formed
      exact ⟨list, ofJson_of_recorded distinct said ahead⟩
  refine ⟨accepted, fun list => ofJson_eq_ok_iff distinct, fun refused => ?_⟩
  cases decoded : ofJson value with
  | ok list => exact absurd (accepted.mp ⟨list, decoded⟩) refused
  | error fault => exact ⟨fault, rfl, by simp only [ofText, read, decoded]⟩

/-- Members of a task record: one that no record has, and none of those that may be left out. -/
def sparseMembers : List (Text × Json) :=
  [("id", .string "2"), ("status", .string "completed"), ("subject", .string "s"), ("colour", .null),
    ("created_at", .int 4), ("updated_at", .int 5)]

/-- A record of one task. -/
def sparseRecord : Json := .object [("tasks", .object [("2", .object sparseMembers)]), ("next_id", .int 3)]

/-- What it says. -/
def sparseList : TaskList := ⟨3, .ofList [("2", ⟨"2", "s", "", .completed, 4, 5, none, [], []⟩)]⟩

/-- A record whose counter is a truth value. -/
def flaggedRecord : Json := .object [("next_id", .bool true), ("tasks", .object [])]

/-- The sparse record has the format and says a task with the defaults; the record with a truth value for a
counter has not, and its text is refused. -/
theorem ofJson_sparse_flagged :
    (Json.read (0 + depth) sparseRecord.written = .ok sparseRecord ∧ IsList sparseRecord ∧
        sparseList.Recorded sparseRecord) ∧
      Json.read (0 + depth) flaggedRecord.written = .ok flaggedRecord ∧ ¬ IsList flaggedRecord ∧
        ∃ fault, ofText 0 flaggedRecord.written = .error (.badRecord fault) := by
  have sparse : Json.read (0 + depth) sparseRecord.written = .ok sparseRecord := by
    have task : Json.Readable 2 (.object sparseMembers) := by
      refine .object (by decide) ?_
      simp only [sparseMembers, List.forall_mem_cons, List.not_mem_nil, false_implies, implies_true, and_true]
      exact ⟨.string _, .string _, .string _, .null, .int (by decide +kernel), .int (by decide +kernel)⟩
    have tasks : Json.Readable 3 (.object [("2", .object sparseMembers)]) :=
      .object (by simp) (by simpa using task)
    refine Json.read_written (.object (by decide) ?_)
    simp only [List.forall_mem_cons, List.not_mem_nil, false_implies, implies_true, and_true]
    exact ⟨tasks, .int (by decide +kernel)⟩
  have flagged : Json.read (0 + depth) flaggedRecord.written = .ok flaggedRecord := by
    refine Json.read_written (.object (by decide) ?_)
    simp only [List.forall_mem_cons, List.not_mem_nil, false_implies, implies_true, and_true]
    exact ⟨.bool true, .object (by simp) (by simp)⟩
  have decoded : ofJson sparseRecord = .ok sparseList := by decide +kernel
  have unformed : ¬ IsList flaggedRecord := by
    rintro ⟨members, nextId, records, e, given, -⟩
    cases e
    simp at given
  obtain ⟨accepted, exact, -⟩ := ofJson_exactly sparse
  obtain ⟨-, -, refused⟩ := ofJson_exactly flagged
  obtain ⟨fault, -, text⟩ := refused unformed
  exact ⟨⟨sparse, accepted.mp ⟨_, decoded⟩, ((exact _).mp decoded).1⟩, flagged, unformed, fault, text⟩

end TaskList

end Taskboard
