import Mathlib.Data.List.Induction
import Taskboard.Proofs.Command.Reply

/-!
# Dispatch over any registrations

Commands may be registered under names that clash, within one registration or with earlier ones, in capital and in
small letters. A registry keeps two tables, one of commands and one of help texts, and a registration overwrites what
it mentions in either. So what stands under a key is what the last registration put there that mentions the key, which
is shown once for both tables, from what one more registration does to them.

A line that starts with a slash is for one command at most: the one that was registered last under its first word. Help
shows the main names in the order in which they were first used.
-/

namespace Taskboard

/-- What a registry is told about a command. -/
structure Registration (Handler : Type) where
  /-- The main name. -/
  name : Text
  /-- The command. -/
  handler : Handler
  /-- The help text. -/
  help : Text
  /-- The further names. -/
  aliases : List Text
deriving DecidableEq

namespace Registration

variable {Handler Value : Type} {registration : Registration Handler} {earlier : List (Registration Handler)}
  {holds : Registration Handler → Bool}

/-- Whether a word is one of the names of the command, in small letters. -/
def answersTo (word : Text) (registration : Registration Handler) : Bool :=
  (registration.name :: registration.aliases).any fun known => Text.lower word = Text.lower known

/-- Whether a key is the main name of the command, in small letters. -/
def isNamed (key : Text) (registration : Registration Handler) : Bool := key = Text.lower registration.name

/-- The last of some registrations that has a property. -/
def last? (holds : Registration Handler → Bool) (registrations : List (Registration Handler)) :
    Option (Registration Handler) :=
  registrations.reverse.find? holds

theorem last?_concat : last? holds (earlier ++ [registration]) =
    if holds registration then some registration else last? holds earlier := by
  rw [last?, List.reverse_concat, List.find?_cons]
  cases holds registration <;> rfl

/-- What every registration with a property overwrites, and no other changes, is as the last of them has left it. -/
theorem eq_map_last? (found : List (Registration Handler) → Option Value) {value : Registration Handler → Value}
    (nothing : found [] = none)
    (overwrites : ∀ earlier registration, found (earlier ++ [registration]) =
      if holds registration then some (value registration) else found earlier)
    (registrations : List (Registration Handler)) : found registrations = (last? holds registrations).map value := by
  induction registrations using List.reverseRecOn with
  | nil => exact nothing
  | append_singleton earlier registration ih =>
    rw [overwrites, last?_concat, ih]
    cases holds registration <;> rfl

end Registration

/-- One value stored under several keys, each of them spelled anew. -/
theorem Keyed.find?_foldl_put {Value : Type} (spell : Text → Text) (names : List Text) (value : Value)
    (table : Keyed Value) (key : Text) :
    (names.foldl (fun table name => table.put (spell name) value) table).find? key =
      if names.any fun name => key = spell name then some value else table.find? key := by
  induction names generalizing table with
  | nil => rfl
  | cons name names ih =>
    rw [List.foldl_cons, ih, find?_put, List.any_cons]
    by_cases same : key = spell name
    · simp [same]
    · simp [same]

namespace Registry

open Registration

variable {Handler Job Report : Type} {registry : Registry Handler} {registration : Registration Handler}
  {earlier : List (Registration Handler)} {body : Handler → List Text → Undertaking Job Report Text}
  {line : Text} {rest first : List CodePoint} {others : List (List CodePoint)}

/-- The registry that is told some things one after the other. -/
def ofRegistrations (registrations : List (Registration Handler)) : Registry Handler :=
  registrations.foldl (fun registry registration =>
    registry.register registration.name registration.handler registration.help registration.aliases) .empty

theorem ofRegistrations_concat : ofRegistrations (earlier ++ [registration]) =
    (ofRegistrations earlier).register registration.name registration.handler registration.help
      registration.aliases :=
  List.foldl_concat ..

/-- Under a word stands the command of the last registration that answers to it. -/
theorem find?_handlers (registrations : List (Registration Handler)) (word : Text) :
    (ofRegistrations registrations).handlers.find? (Text.lower word) =
      (last? (answersTo word) registrations).map Registration.handler := by
  apply eq_map_last? fun registrations => (ofRegistrations registrations).handlers.find? (Text.lower word)
  · rfl
  · intro earlier registration
    rw [ofRegistrations_concat, register]
    dsimp only
    -- the further names are put after the main name, but what is put is the same
    rw [Keyed.find?_foldl_put, Keyed.find?_put, answersTo, List.any_cons]
    by_cases main : Text.lower word = Text.lower registration.name
    · simp [main]
    · simp [main]

/-- Under a main name stands the help text of the last registration with this name. -/
theorem find?_helpTexts (registrations : List (Registration Handler)) (key : Text) :
    (ofRegistrations registrations).helpTexts.find? key =
      (last? (isNamed key) registrations).map Registration.help := by
  apply eq_map_last? fun registrations => (ofRegistrations registrations).helpTexts.find? key
  · rfl
  · intro earlier registration
    rw [ofRegistrations_concat, register, Keyed.find?_put, isNamed]
    simp only [decide_eq_true_eq]

/-- The main names stand in the order in which they were first used. -/
theorem keys_helpTexts (registrations : List (Registration Handler)) :
    (ofRegistrations registrations).helpTexts.keys =
      (registrations.map fun registration => Text.lower registration.name).eraseDups := by
  induction registrations using List.reverseRecOn with
  | nil => rfl
  | append_singleton earlier registration ih =>
    rw [ofRegistrations_concat, register, Keyed.keys_put, ih, List.map_append, List.map_singleton,
      List.eraseDups_append]
    generalize earlier.map (fun registration => Text.lower registration.name) = names
    by_cases known : Text.lower registration.name ∈ names
    · simp [List.removeAll, known]
    · simp [List.removeAll, known, List.eraseDups_cons]

/-- Only what starts with a slash can be a command. -/
theorem dispatch_eq_notCommand_iff : registry.dispatch line = .notCommand ↔ line.toList.head? ≠ some (.char '/') := by
  constructor
  · intro asked slash
    obtain ⟨rest, slash⟩ := List.head?_eq_some_iff.mp slash
    simp only [dispatch, slash] at asked
    split at asked
    · cases asked
    · split at asked <;> cases asked
  · intro notSlash
    rw [dispatch.eq_def]
    split
    · next rest slash => exact absurd (congrArg List.head? slash) notSlash
    · rfl

/-- A line that does not start with a slash has no reply. -/
theorem handle_of_notSlash (notSlash : line.toList.head? ≠ some (.char '/')) :
    registry.handle body line = pure none := by
  rw [handle, dispatch_eq_notCommand_iff.mpr notSlash]

/-- A line without a word after the slash is answered with a hint. -/
theorem handle_of_noWord (slash : line.toList = .char '/' :: rest) (noWord : Text.words rest = []) :
    registry.handle body line = pure (some ("Empty command. " ++ helpHint)) := by
  have asked : registry.dispatch line = .noName := by simp only [dispatch, slash, noWord, List.map_nil]
  rw [handle, asked]

/-- A word under which no command stands is answered with a hint. -/
theorem handle_of_unknown (slash : line.toList = .char '/' :: rest) (split : Text.words rest = first :: others)
    (unknown : registry.handlers.find? (Text.lower (Text.ofList first)) = none) :
    registry.handle body line =
      pure (some ("Unknown command: /" ++ Text.lower (Text.ofList first) ++ ". " ++ helpHint)) := by
  have asked : registry.dispatch line = .unknown (Text.lower (Text.ofList first)) := by
    simp only [dispatch, slash, split, List.map_cons, unknown]
  rw [handle, asked]

/-- What a command ends with never comes to having no reply. -/
theorem run_ending_ne_none (perform : Job → Workspace → Report × Workspace) (name : Text)
    (result : Except Failure Text) (workspace : Workspace) :
    (Script.run perform (ending name result) workspace).1 ≠ .ok none := by
  intro silent
  cases result with
  | ok text => cases silent
  | error failure =>
    rw [ending] at silent
    split at silent
    · rw [Script.run, Script.run] at silent
      cases noted : workspace.host.noting with
      | ok told =>
        rw [noted] at silent
        cases silent
      | error why =>
        rw [noted] at silent
        cases silent
    · cases silent

/-- Only a line that does not start with a slash has no reply, whatever commands do. -/
theorem run_handle_eq_none_iff (perform : Job → Workspace → Report × Workspace) (workspace : Workspace) :
    (Script.run perform (registry.handle body line).run workspace).1 = .ok none ↔
      line.toList.head? ≠ some (.char '/') := by
  refine ⟨fun silent slash => ?_, fun notSlash => ?_⟩
  · cases asked : registry.dispatch line with
    | notCommand => exact dispatch_eq_notCommand_iff.mp asked slash
    | noName =>
      rw [handle, asked] at silent
      cases silent
    | unknown name =>
      rw [handle, asked] at silent
      cases silent
    | call name handler arguments =>
      rw [run_handle_of_call asked, Script.run_bind] at silent
      exact run_ending_ne_none perform name _ _ silent
  · rw [handle_of_notSlash notSlash]
    rfl

/-- What a line comes to after any registrations. Without a slash in front it has no reply and nothing is called; with
one it always has a reply, or fails. Under its first word, in small letters, the last registration that has it among its
names, in small letters, is called with the other words, and nothing else is; the reply is made of what the command ends
with. Without such a registration, or without a word, there is only a hint. Help shows every main name in small letters
once, in the order of the first registrations with these names, with the help texts of the last. -/
theorem dispatch_by_last (registrations : List (Registration Handler))
    (body : Handler → List Text → Undertaking Job Report Text) (line : Text) :
    let registry := ofRegistrations registrations
    let replied := registry.handle body line
    (line.toList.head? ≠ some (.char '/') → replied = pure none) ∧
    (∀ perform workspace,
      (Script.run perform replied.run workspace).1 = .ok none ↔ line.toList.head? ≠ some (.char '/')) ∧
    (∀ rest, line.toList = .char '/' :: rest →
      (Text.words rest = [] → replied = pure (some ("Empty command. " ++ helpHint))) ∧
      ∀ first others, Text.words rest = first :: others →
        let word := Text.ofList first
        (last? (answersTo word) registrations = none →
          replied = pure (some ("Unknown command: /" ++ Text.lower word ++ ". " ++ helpHint))) ∧
        ∀ registration, last? (answersTo word) registrations = some registration →
          replied.run = (body registration.handler (others.map Text.ofList)).run.bind (ending (Text.lower word))) ∧
    ∃ entries : List (Text × Text),
      registry.help = Text.intercalate "\n" ("Available commands:" ::
        entries.map fun entry => "  /" ++ entry.1 ++ " - " ++ entry.2) ∧
      entries.map Prod.fst = (registrations.map fun registration => Text.lower registration.name).eraseDups ∧
      (entries.map Prod.fst).Nodup ∧
      ∀ entry ∈ entries, (last? (isNamed entry.1) registrations).map Registration.help = some entry.2 := by
  intro registry replied
  refine ⟨handle_of_notSlash, run_handle_eq_none_iff, fun rest slash => ⟨handle_of_noWord slash, ?_⟩,
    registry.helpTexts.entries, rfl, keys_helpTexts registrations, registry.helpTexts.distinct, ?_⟩
  · intro first others split word
    have stands := find?_handlers registrations word
    refine ⟨fun none => ?_, fun registration last => ?_⟩
    · rw [none] at stands
      exact handle_of_unknown slash split stands
    · rw [last] at stands
      exact run_handle_of_call (dispatch_eq_call_iff.mpr ⟨rest, first, others, slash, split, rfl, stands, rfl⟩)
  · rintro ⟨key, text⟩ mem
    rw [← find?_helpTexts]
    exact Keyed.find?_eq_some_iff.mpr mem

/-- Registrations that clash, by way of capitals, of further names, and of the sign for kelvins, whose small letter is
the usual one. -/
def clashing : List (Registration Nat) :=
  [⟨"Help", 1, "first", ["K"]⟩, ⟨"list", 2, "second", ["HELP", Text.ofList [CodePoint.ofNat 0x212A]]⟩,
    ⟨"hElP", 3, "third", []⟩]

/-- The second command fails, the others show that they were called. -/
def numbered (number : Nat) (arguments : List Text) : Undertaking Empty Unit Text :=
  if number = 2 then throw (.notFound "7") else return Text.intercalate ", " (toString number :: arguments)

/-- A later main name takes a word from an earlier further name, and a further name takes one from another. -/
theorem dispatch_by_last_clashing :
    let registry := ofRegistrations clashing
    (registry.handle numbered "/HELP a  b").run = .done (.ok (some "3, a, b")) ∧
      (registry.handle numbered "/k").run =
        .instant (·.record [.info Source.commands "Command /k failed: task not found: 7"]) (fun workspace =>
          .done (workspace.host.noting.map fun _ => some "Error: task not found: 7")) ∧
      registry.handle numbered "help" = pure none ∧
      registry.help = "Available commands:\n  /help - third\n  /list - second" := by
  intro registry
  obtain ⟨-, -, helped, -⟩ := dispatch_by_last clashing numbered "/HELP a  b"
  obtain ⟨-, -, called, -⟩ := dispatch_by_last clashing numbered "/k"
  obtain ⟨silent, -, -, entries, shown, names, -, texts⟩ := dispatch_by_last clashing numbered "help"
  have parted := (helped _ rfl).2 ("HELP" : Text).toList [("a" : Text).toList, ("b" : Text).toList] (by decide +kernel)
  have third := parted.2 ⟨"hElP", 3, "third", []⟩ (by decide +kernel)
  have second := ((called _ rfl).2 ("k" : Text).toList [] (by decide +kernel)).2
    ⟨"list", 2, "second", ["HELP", Text.ofList [CodePoint.ofNat 0x212A]]⟩ (by decide +kernel)
  have small : Text.lower (Text.ofList ("HELP" : Text).toList) = "help" := by decide +kernel
  have same : Text.lower (Text.ofList ("k" : Text).toList) = "k" := by decide +kernel
  rw [small] at third
  rw [same] at second
  refine ⟨third, second, silent (by decide), ?_⟩
  have keys : entries.map Prod.fst = ["help", "list"] := names.trans (by decide +kernel)
  obtain ⟨⟨_, text⟩, rest, rfl, rfl, keys'⟩ := List.map_eq_cons_iff.mp keys
  obtain ⟨⟨_, text'⟩, none, rfl, rfl, keys''⟩ := List.map_eq_cons_iff.mp keys'
  obtain rfl := List.map_eq_nil_iff.mp keys''
  have last : (last? (isNamed "help") clashing).map Registration.help = some "third" := by decide +kernel
  have last' : (last? (isNamed "list") clashing).map Registration.help = some "second" := by decide +kernel
  obtain rfl : "third" = text := Option.some.inj (last.symm.trans (texts ("help", text) (by simp)))
  obtain rfl : "second" = text' := Option.some.inj (last'.symm.trans (texts ("list", text') (by simp)))
  exact shown.trans (by decide +kernel)

/-- The registry of the console is made by registrations. -/
example : Command.registry = ofRegistrations (Command.all.map fun command =>
    ⟨command.name, command, command.helpText, command.aliases⟩) := rfl

end Registry

end Taskboard
