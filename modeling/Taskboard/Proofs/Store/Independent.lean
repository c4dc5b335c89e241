import Taskboard.Proofs.Store.Restart

/-!
# Lists do not disturb each other

An operation on one list cannot be noticed at another one: not in memory, where only its own list is touched,
and not on the disk, which is left alike for the other file and the file beside it. The order of operations on
different lists does not matter, and in every run each list is served as if it were alone.

All of that needs the way to the folder of the store to be straight. A path that leads up again from a folder
that is not there yet leads nowhere until some list is saved, and only then to files that other lists may
have. A path with too long a name behind a folder that is not there yet finds nothing until some list is saved,
and only then fails.
-/

namespace Taskboard

open Disk

namespace Event

/-- Whether an event is a call on a list or a restart. -/
def concerns (listId : Text) : Event → Bool
  | .call _ other _ => other = listId
  | .restart => true
  | .foreign _ => false

/-- Whether an event is a call or a restart. -/
def isInternal : Event → Prop
  | .foreign _ => False
  | _ => True

end Event

namespace Site

variable {site other : Site} {moment : Moment} {listId another : Text} {operation : Operation}
  {target : Location} {path : Path} {events : List Event}

/-- What the calls of a run on one list give back, in order. -/
def repliesOn (listId : Text) (site : Site) : List Event → List Reply
  | [] => []
  | event :: rest =>
    (if event.concerns listId then site.replies [event] else []) ++
      repliesOn listId (site.advance event) rest

/-- Two sites that are the same to whoever uses one list only. -/
structure Agrees (listId : Text) (target : Location) (site other : Site) : Prop where
  /-- The folder is the same. -/
  folder : site.store.folder = other.store.folder
  /-- There is as much room for documents. -/
  room : site.store.spare = other.store.spare
  /-- The list in memory is the same, or there is none. -/
  memory : site.store.lists.find? listId = other.store.lists.find? listId
  /-- The disks are alike for the files of the list. -/
  disks : Disk.Alike site.store.folder target (Store.fileNames listId) site.disk other.disk

namespace Agrees

/-- The file of the list is read alike. -/
theorem read (h : Agrees listId target site other) (named : site.store.filePath listId = .ok path)
    (short : Utf8.size (listId ++ ".json") ≤ longestName) : site.disk.read path = other.disk.read path := by
  rw [Store.filePath_eq named]
  exact h.disks.read_child List.mem_cons_self (Store.append_ne_dots (by decide)) short

/-- The file of the list holds the same. -/
theorem contents (h : Agrees listId target site other) (named : site.store.filePath listId = .ok path) :
    site.disk.contents path = other.disk.contents path := by
  rw [Store.filePath_eq named]
  exact h.disks.contents_child List.mem_cons_self (Store.append_ne_dots (by decide))

/-- A call on the list comes to the same on both sites, which then still agree. -/
theorem own (h : Agrees listId target site other) (short : Utf8.size (listId ++ ".json") ≤ longestName)
    (moment : Moment) (operation : Operation) :
    (site.outcome moment listId operation).result = (other.outcome moment listId operation).result ∧
      Agrees listId target (site.advance (.call moment listId operation))
        (other.advance (.call moment listId operation)) := by
  have opened : site.store.openedList listId (moment.host site.disk) =
      other.store.openedList listId (moment.host other.disk) :=
    Store.openedList_congr h.folder h.room h.memory fun path named => h.read named short
  obtain ⟨plan, yields⟩ := Store.perform_planned site.store.folder listId operation moment
    (other.store.openedList listId (moment.host other.disk))
  obtain ⟨result, disks⟩ := (yields site.store site.disk rfl opened).alike
    (yields other.store other.disk h.folder.symm rfl) h.disks
  refine ⟨result, ?_, ?_, ?_, ?_⟩
  · rw [folder_advance, folder_advance, h.folder]
  · rw [spare_advance, spare_advance, h.room]
  · show (site.store.perform listId operation _).store.lists.find? listId =
      (other.store.perform listId operation _).store.lists.find? listId
    rw [Store.find?_perform, Store.find?_perform, opened, h.memory]
    rfl
  · rw [folder_advance]
    exact disks

/-- A call on another list, on one of the sites only, is not noticed. -/
theorem aside (h : Agrees listId target site other) (ne : listId ≠ another) (moment : Moment)
    (operation : Operation) : Agrees listId target (site.advance (.call moment another operation)) other := by
  obtain ⟨plan, yields⟩ := Store.perform_planned site.store.folder another operation moment
    (site.store.openedList another (moment.host site.disk))
  refine ⟨?_, ?_, ?_, ?_⟩
  · rw [folder_advance, h.folder]
  · rw [spare_advance, h.room]
  · exact ((site.course moment another operation).find?_other ne).trans h.memory
  · rw [folder_advance]
    exact (yields site.store site.disk rfl rfl).aside ne h.disks

/-- A restart of both sites. -/
theorem restart (h : Agrees listId target site other) :
    Agrees listId target (site.advance .restart) (other.advance .restart) := ⟨h.folder, h.room, rfl, h.disks⟩

/-- In a run, the calls on the list are answered as without the calls on other lists, and the sites agree in
the end. -/
theorem run (h : Agrees listId target site other) (short : Utf8.size (listId ++ ".json") ≤ longestName)
    (within : ∀ event ∈ events, event.isInternal) :
    site.repliesOn listId events = other.replies (events.filter (Event.concerns listId)) ∧
      Agrees listId target (site.run events) (other.run (events.filter (Event.concerns listId))) := by
  induction events generalizing site other with
  | nil => exact ⟨rfl, h⟩
  | cons event events ih =>
    have within' : ∀ event ∈ events, event.isInternal :=
      fun event mem => within event (List.mem_cons_of_mem _ mem)
    rw [repliesOn, List.filter_cons]
    cases event with
    | foreign change => exact (within (.foreign change) List.mem_cons_self).elim
    | restart => exact ih h.restart within'
    | call moment called operation =>
      by_cases same : called = listId
      · subst same
        obtain ⟨result, agrees⟩ := h.own short moment operation
        obtain ⟨replies, last⟩ := ih agrees within'
        have concerns : (Event.call moment called operation).concerns called = true := decide_eq_true rfl
        rw [if_pos concerns, if_pos concerns, replies]
        refine ⟨?_, last⟩
        rw [Site.replies, Site.replies, Site.replies, result]
        rfl
      · have elsewhere : (Event.call moment called operation).concerns listId = false := decide_eq_false same
        rw [if_neg (ne_true_of_eq_false elsewhere), if_neg (ne_true_of_eq_false elsewhere), List.nil_append]
        exact ih (h.aside (fun e => same e.symm) moment operation) within'

end Agrees

/-- Lists are independent, whatever is in memory and on the disk, if the way to the folder of the store is
straight: no two dots and no name that is too long come after a folder on the way that is missing. Two
operations on two lists whose file names are short enough, each at its own moment, with or without a breakdown
of the save, can be carried out in either order: each gives the same result as without the other, and in the
end all lists in memory and all list files are the same. So in every run of calls and restarts, a list gets the
replies, and ends up with the list in memory and the file, that it would get from its own calls alone. -/
theorem lists_independent (site : Site) (tree : site.disk.IsTree)
    (straight : site.disk.Straight (basePlace site.store.folder.root) site.store.folder.names) :
    (∀ (one another : Text) (moment moment' : Moment) (operation operation' : Operation), one ≠ another →
      Utf8.size (one ++ ".json") ≤ longestName → Utf8.size (another ++ ".json") ≤ longestName →
      let first := site.advance (.call moment one operation)
      let second := site.advance (.call moment' another operation')
      let both := first.advance (.call moment' another operation')
      let both' := second.advance (.call moment one operation)
      (second.outcome moment one operation).result = (site.outcome moment one operation).result ∧
      (first.outcome moment' another operation').result = (site.outcome moment' another operation').result ∧
      ∀ listId, both.store.lists.find? listId = both'.store.lists.find? listId ∧
        ∀ path, site.store.filePath listId = .ok path →
          both.disk.contents path = both'.disk.contents path ∧
          (Utf8.size (listId ++ ".json") ≤ longestName → both.disk.read path = both'.disk.read path)) ∧
    ∀ (listId : Text) (events : List Event), Utf8.size (listId ++ ".json") ≤ longestName →
      (∀ event ∈ events, event.isInternal) →
      let alone := events.filter (Event.concerns listId)
      site.repliesOn listId events = site.replies alone ∧
      (site.run events).store.lists.find? listId = (site.run alone).store.lists.find? listId ∧
      ∀ path, site.store.filePath listId = .ok path →
        (site.run events).disk.contents path = (site.run alone).disk.contents path ∧
        (site.run events).disk.read path = (site.run alone).disk.read path := by
  obtain ⟨target, alike⟩ := straight.alike tree
  have refl (listId : Text) : Agrees listId target site site := ⟨rfl, rfl, rfl, alike _⟩
  refine ⟨fun one another moment moment' operation operation' ne short short' => ?_,
    fun listId events short internal => ?_⟩
  · intro first second both both'
    have ownFirst := (refl another).aside (Ne.symm ne) moment operation
    have ownSecond := (refl one).aside ne moment' operation'
    obtain ⟨result', agrees'⟩ := ownFirst.own short' moment' operation'
    obtain ⟨result, agrees⟩ := ownSecond.own short moment operation
    refine ⟨result, result', fun listId => ?_⟩
    -- Both orders agree, for each list, with what its own operation alone leaves behind.
    obtain ⟨alone, left, right⟩ :
        ∃ alone, Agrees listId target both alone ∧ Agrees listId target both' alone := by
      by_cases same : listId = one
      · subst same
        exact ⟨first, ((refl listId).own short moment operation).2.aside ne moment' operation', agrees⟩
      · by_cases same' : listId = another
        · subst same'
          exact ⟨second, agrees', ((refl listId).own short' moment' operation').2.aside same moment operation⟩
        · exact ⟨site, ((refl listId).aside same moment operation).aside same' moment' operation',
            ((refl listId).aside same' moment' operation').aside same moment operation⟩
    have named {path : Path} (at' : site.store.filePath listId = .ok path) :
        both.store.filePath listId = .ok path ∧ both'.store.filePath listId = .ok path := by
      simp only [both, both', first, second, Store.filePath, folder_advance]
      exact ⟨at', at'⟩
    refine ⟨left.memory.trans right.memory.symm, fun path at' => ⟨?_, fun short => ?_⟩⟩
    · exact (left.contents (named at').1).trans (right.contents (named at').2).symm
    · exact (left.read (named at').1 short).trans (right.read (named at').2 short).symm
  · intro alone
    obtain ⟨replies, agrees⟩ := (refl listId).run short internal
    refine ⟨replies, agrees.memory, fun path at' => ?_⟩
    have named : (site.run events).store.filePath listId = .ok path := by rwa [filePath_run]
    exact ⟨agrees.contents named, agrees.read named short⟩

/-- A moment at which a save breaks off after the file beside was written. -/
def cutShort : Moment := ⟨.ofInt 5, some ⟨"disk full", 2, none⟩, true⟩

/-- A run over a list whose save breaks off and a list that is named like the file of the first, with a
restart. -/
def mixed : List Event :=
  [.call cutShort "l" (.create "s" ""), .call (.calm 6) "l.json" (.create "t" ""), .restart,
    .call (.calm 7) "l" (.list none), .call (.calm 8) "l.json" (.get "1")]

/-- The two lists do not notice each other. -/
theorem lists_independent_lookalike :
    let site := opened ⟨.here, ["d"]⟩ empty 0
    let first := site.advance (.call cutShort "l" (.create "s" ""))
    let second := site.advance (.call (.calm 6) "l.json" (.create "t" ""))
    site.disk.IsTree ∧ site.disk.Straight (basePlace site.store.folder.root) site.store.folder.names ∧
      (site.outcome cutShort "l" (.create "s" "")).result.isOk = false ∧
      (second.outcome cutShort "l" (.create "s" "")).result =
        (site.outcome cutShort "l" (.create "s" "")).result ∧
      (first.outcome (.calm 6) "l.json" (.create "t" "")).result =
        (site.outcome (.calm 6) "l.json" (.create "t" "")).result ∧
      site.repliesOn "l.json" mixed = site.replies (mixed.filter (Event.concerns "l.json")) := by
  intro site first second
  have straight : site.disk.Straight (basePlace .here) ["d", "tasks"] := straight_of_plain (by decide)
  have fails : (site.outcome cutShort "l" (.create "s" "")).result.isOk = false := by decide +kernel
  have internal : ∀ event ∈ mixed, event.isInternal := by
    simp only [mixed, List.forall_mem_cons, List.not_mem_nil, false_implies, implies_true, and_true]
    exact ⟨trivial, trivial, trivial, trivial, trivial⟩
  obtain ⟨commute, alone⟩ := lists_independent site isTree_empty straight
  obtain ⟨one, another, -⟩ := commute "l" "l.json" cutShort (.calm 6) (.create "s" "") (.create "t" "")
    (by decide) (by decide) (by decide)
  exact ⟨isTree_empty, straight, fails, one, another, (alone "l.json" mixed (by decide) internal).1⟩

/-- A name that is too long. -/
def longName : Text := Text.ofList (List.replicate 256 (CodePoint.char 'n'))

/-- The long name leads on from no place. -/
theorem step_longName (place : Location) : step place longName = .error .nameTooLong := by
  have long : longestName < Utf8.size longName := by decide +kernel
  have ne : longName ≠ ".." := by decide +kernel
  rw [step, if_neg ne, if_pos long]

/-- A data folder with that name behind a folder that is not there. -/
def overlong : Path := ⟨.here, ["p", longName]⟩

/-- The path of a list there is not refused before it is followed. -/
theorem refusal?_overlong : refusal? ((overlong.child "tasks").child "b.json") = none := by decide +kernel

/-- The names of a path with a name that leads on from no place are followed up to that name. -/
theorem descend_behind (disk : Disk) {name : Text} (stops : ∀ place, step place name = .error .nameTooLong) :
    disk.descend [] ["p", name, "tasks"] =
      match disk.node? ["p"] with
      | none => .error .notFound
      | some .folder => .error .nameTooLong
      | some (.file _) => .error .notFolder := by
  have first : step [] "p" = .ok ["p"] := rfl
  rw [descend, first]
  simp only
  cases disk.node? ["p"] with
  | none => rfl
  | some node =>
    cases node with
    | file bytes => rfl
    | folder =>
      simp only
      rw [descend, stops]

/-- What is read on that path is told by what stands where the first folder should be. -/
theorem read_overlong (disk : Disk) :
    disk.read ((overlong.child "tasks").child "b.json") =
      match disk.node? ["p"] with
      | none => .error .notFound
      | some .folder => .error .nameTooLong
      | some (.file _) => .error .notFolder := by
  have down : disk.descend (basePlace (overlong.child "tasks").root) (overlong.child "tasks").names = _ :=
    descend_behind disk step_longName
  rw [Disk.read, locate_child, refusal?_overlong, down]
  cases disk.node? ["p"] with
  | none => rfl
  | some node => cases node <;> rfl

/-- So there a list that is not in memory is found empty while the first folder is missing, and cannot be read
once it is made. -/
theorem got_overlong {site : Site} (within : site.store.folder = overlong.child "tasks")
    (absent : site.store.lists.find? "b" = none) :
    (site.disk.node? ["p"] = none → (site.outcome (.calm 6) "b" (.get "1")).result = .ok none) ∧
      (site.disk.hasFolder ["p"] = true → (site.outcome (.calm 6) "b" (.get "1")).result ≠ .ok none) := by
  have named : site.store.filePath "b" = .ok ((overlong.child "tasks").child "b.json") := by
    rw [← within]
    rfl
  have got : (site.outcome (.calm 6) "b" (.get "1")).result =
      (site.store.openedList "b" ((Moment.calm 6).host site.disk)).map fun list => list.find? "1" :=
    Store.result_of_question fun _ _ => rfl
  rw [got]
  constructor
  · intro missing
    obtain ⟨entry, found⟩ : ∃ entry,
        Store.fetch site.store.spare "b" ((overlong.child "tasks").child "b.json") site.disk =
          .ok (.empty, entry) := by
      rw [Store.fetch, read_overlong, missing]
      exact ⟨_, rfl⟩
    have noted : ((Moment.calm 6).host site.disk).noting = .ok () :=
      Store.noting_of_dated ⟨⟨6, rfl⟩, fun _ => ⟨_, rfl⟩⟩
    have opened : site.store.openedList "b" ((Moment.calm 6).host site.disk) = .ok .empty :=
      Store.openedList_of_fetch absent named found noted
    rw [opened]
    rfl
  · intro made
    obtain ⟨failure, found⟩ : ∃ failure,
        Store.fetch site.store.spare "b" ((overlong.child "tasks").child "b.json") site.disk = .error failure := by
      rw [Store.fetch, read_overlong, hasFolder_iff.mp made]
      exact ⟨_, rfl⟩
    have unopened : site.store.openedList "b" ((Moment.calm 6).host site.disk) = .error failure := by
      simp only [Store.openedList, Store.lookUp, absent, named, Moment.host, found, Store.keep]
    intro same
    rw [unopened] at same
    cases same

/-- A store there with one list in memory. -/
def overlongSite : Site := ⟨(Store.within overlong 0).hold "a" .empty, empty⟩

/-- A moment at which a save breaks off after the first folder was made. -/
def cutEarly : Moment := ⟨.ofInt 5, some ⟨"disk full", 0, some 1⟩, true⟩

/-- Where the way is not straight, lists do disturb each other. On the detour, a list is found empty before
another list is saved, and corrupt afterwards, since saving makes the folder that was missing on the way. In
front of too long a name, a list is found empty before, and cannot be read after another save has begun. -/
theorem lists_interfere :
    let site := opened detour detourDisk 0
    let saved := site.advance (.call (.calm 5) "a" (.create "s" ""))
    let begun := overlongSite.advance (.call cutEarly "a" (.create "s" ""))
    (detourDisk.IsTree ∧ overlongSite.disk.IsTree) ∧ "b" ≠ "a" ∧
      Utf8.size ("a" ++ ".json") ≤ longestName ∧ Utf8.size ("b" ++ ".json") ≤ longestName ∧
      ((site.outcome (.calm 6) "b" (.get "1")).result = .ok none ∧
        (saved.outcome (.calm 6) "b" (.get "1")).result ≠ .ok none) ∧
      (overlongSite.outcome (.calm 6) "b" (.get "1")).result = .ok none ∧
        (begun.outcome (.calm 6) "b" (.get "1")).result ≠ .ok none := by
  intro site saved begun
  have empty : ((opened detour detourDisk 0).outcome (.calm 6) "b" (.get "1")).result = .ok none := by rfl
  have corrupt : (saved.outcome (.calm 6) "b" (.get "1")).result.isOk = false := by decide +kernel
  have detoured : (saved.outcome (.calm 6) "b" (.get "1")).result ≠ .ok none := by
    intro same
    rw [same] at corrupt
    cases corrupt
  have absent : begun.store.lists.find? "b" = none := by
    dsimp only [begun, advance]
    rw [(overlongSite.course cutEarly "a" (.create "s" "")).find?_other (by decide)]
    rfl
  have made : begun.disk.hasFolder ["p"] = true := by decide +kernel
  have unreadable := (got_overlong (folder_advance overlongSite _) absent).2 made
  exact ⟨⟨isTree_detourDisk, isTree_empty⟩, by decide, by decide, by decide, ⟨empty, detoured⟩,
    (got_overlong rfl rfl).1 rfl, unreadable⟩

end Site

end Taskboard
