import Mathlib
import XmlSettings.Proofs.Dotenv.Load
import XmlSettings.Proofs.FileTree.Replace
import XmlSettings.Proofs.Outcome
import XmlSettings.Proofs.Session.Frame
import XmlSettings.Proofs.Settings.Saved
import XmlSettings.Proofs.Store.Sections

/-! # What becomes of the environment

Loading settings adds variables to the environment and changes none.  It adds none unless the document
has been accepted, and what it hands out is expanded in the environment that it leaves.  So a variable
keeps its first value until it is written (`loading_only_adds`).
-/

namespace XmlSettings

open Dotenv (Loader Variables)
open Settings (raw)
open Xml (Document)

namespace Settings

variable {loader : Loader} {isDisabled : Environment → Bool}
  {defined : Environment → FileTree → Text → Variables} {env : Environment} {files : FileTree}
  {envFile? : Option Text} {e : LoadError}

/-! ## The dotenv file -/

/-- The value that a dotenv file offers for a variable, where one is given. -/
def offered (isDisabled : Environment → Bool) (defined : Environment → FileTree → Text → Variables)
    (env : Environment) (files : FileTree) (envFile? : Option Text) (name : Text) : Option Text :=
  envFile?.bind fun path => Dotenv.offered isDisabled defined env files path name

section Lawful

variable (lawful : loader.IsLawful isDisabled defined)

include lawful

theorem isKeptIn_loadEnv (env : Environment) (files : FileTree) (envFile? : Option Text) :
    env.IsKeptIn (loadEnv loader env files envFile?).environment := by
  cases envFile? with
  | none => exact .refl env
  | some path => exact lawful.kept env files path

theorem get?_loadEnv (loaded : (loadEnv loader env files envFile?).result = .ok ()) (name : Text) :
    (loadEnv loader env files envFile?).environment.get? name =
      (env.get? name).or (offered isDisabled defined env files envFile? name) := by
  cases envFile? with
  | none => exact Option.or_none.symm
  | some path => exact lawful.get?_environment loaded name

end Lawful

/-! ## The document -/

/-- Whether an error is about the document, and not about the dotenv file or the environment. -/
def LoadError.isOfDocument : LoadError → Bool
  | unreadable _ | noDocument _ | otherRoot | flatRoot => true
  | dotenv _ | unencodable _ => false

/-- What comes of loading settings in an environment: from a document if one can be read, after a dotenv
    file with the variables that it offers. -/
structure IsOrderly (env : Environment) (offered : Text → Option Text) (document? : Option Document)
    (load : Load) : Prop where
  kept : env.IsKeptIn load.environment
  unchanged : ∀ e, load.result = .error e → e.isOfDocument = true → load.environment = env
  expanded : ∀ entries, load.result = .ok entries → ∃ document source, document? = some document ∧
    raw document = .ok source ∧ Value.expandEntries load.environment source = .ok entries ∧
    ∀ name, load.environment.get? name = (env.get? name).or (offered name)

section Lawful

variable (lawful : loader.IsLawful isDisabled defined)

include lawful

theorem isOrderly_load (env : Environment) (files : FileTree) (envFile? : Option Text)
    (document : Document) : IsOrderly env (offered isDisabled defined env files envFile?) (some document)
      (load loader env files envFile? document) := by
  unfold load
  split
  next refused => exact ⟨.refl env, fun _ _ _ => rfl, fun _ given => nomatch given⟩
  next source accepted =>
    have kept := isKeptIn_loadEnv lawful env files envFile?
    split
    next later records e stopped =>
      rw [stopped] at kept
      refine ⟨kept, fun e same about => ?_, fun _ given => nomatch given⟩
      cases same
      cases about
    next later records added =>
      have adds := get?_loadEnv lawful (show (loadEnv loader env files envFile?).result = _ by rw [added])
      rw [added] at kept adds
      split
      next e refused =>
        refine ⟨kept, fun e same about => ?_, fun _ given => nomatch given⟩
        cases same
        cases about
      next expanded =>
        refine ⟨kept, fun _ failed => (nomatch failed), fun entries given => ?_⟩
        cases given
        exact ⟨document, source, rfl, accepted, expanded, adds⟩

end Lawful

/-- The document in a file, if it can be read. -/
def documentAt? (files : FileTree) (path : Text) : Option Document :=
  match files.read (Path.tidy path) with
  | .ok content => some (.bytes content)
  | .error _ => none

theorem isOrderly_loadFile (lawful : loader.IsLawful isDisabled defined) (env : Environment)
    (files : FileTree) (envFile? : Option Text) (path : Text) :
    IsOrderly env (offered isDisabled defined env files envFile?) (documentAt? files path)
      (loadFile loader env files envFile? path) := by
  unfold loadFile documentAt?
  simp only
  cases files.read (Path.tidy path) with
  | error fault => exact ⟨.refl env, fun _ _ _ => rfl, fun _ given => nomatch given⟩
  | ok content =>
    have orderly := isOrderly_load lawful env files envFile? (.bytes content)
    simp only
    split
    next => exact orderly
    next => exact ⟨orderly.kept, orderly.unchanged, orderly.expanded⟩

end Settings

namespace Session

/-! ## Commands -/

/-- Whether a command loads settings. -/
def Command.isLoading : Command → Bool
  | load _ _ | loadFile _ _ | loadWith _ _ _ | loadFileWith _ _ _ => true
  | _ => false

/-- The variable that a command writes, as it comes back from the operating system. -/
def Command.variable? : Command → Option Text
  | setVariable name _ => name.systemForm?
  | _ => none

/-- The dotenv file that a command loads, if any, and then the document, if it can be read. -/
inductive Loads (files : FileTree) (registries : List Registry) :
    Command → Option Text → Option Document → Prop where
  | document (envFile? : Option Text) (document : Document) :
      Loads files registries (.load envFile? document) envFile? (some document)
  | file (envFile? : Option Text) (path : Text) :
      Loads files registries (.loadFile envFile? path) envFile? (Settings.documentAt? files path)
  | documentWith {number : Nat} {name : Text} {envFile? : Option Text}
      (found : adapterAt registries number name = .ok (.xml envFile?)) (document : Document) :
      Loads files registries (.loadWith number name document) envFile? (some document)
  | fileWith {number : Nat} {name : Text} {envFile? : Option Text}
      (found : adapterAt registries number name = .ok (.xml envFile?)) (path : Text) :
      Loads files registries (.loadFileWith number name path) envFile?
        (Settings.documentAt? files path)

/-- How a document has been opened under a handle: the variables that were offered have been added where
    they were new, and then the document was expanded. -/
structure IsOpened (before after : Session) (offered : Text → Option Text) (document : Document)
    (handle : Nat) : Prop where
  added : ∀ name, after.environment.get? name = (before.environment.get? name).or (offered name)
  expanded : ∃ id source, after.handles[handle]? = some id ∧ raw document = .ok source ∧
    Value.expandEntries after.environment source = .ok (after.store.table id)

section Commands

variable {session : Session} {command : Command} {envFile? : Option Text}
  {document? : Option Document} {isDisabled : Environment → Bool}
  {defined : Environment → FileTree → Text → Variables}

theorem run_map_congr {α β : Type} {first second : Action α} {f : α → β}
    (same : first.run.run session = second.run.run session) :
    (f <$> first).run.run session = (f <$> second).run.run session := by
  rw [run_map, run_map, same]

theorem run_throughAdapter {number : Nat} {name : Text} {found : Adapter}
    {next : Adapter → Action Nat} (finds : adapterAt session.registries number name = .ok found) :
    (adapter number name >>= next).run.run session = (next found).run.run session := by
  have looked := run_adapter session number name
  rw [finds] at looked
  exact run_bind_ok looked

theorem run_of_loads (lawful : session.loader.IsLawful isDisabled defined)
    (loads : Loads session.files session.registries command envFile? document?) :
    ∃ load, Settings.IsOrderly session.environment
        (Settings.offered isDisabled defined session.environment session.files envFile?) document? load ∧
      command.action.run.run session = (Reply.handle <$> takeOver load).run.run session := by
  cases loads with
  | document _ document =>
    have run := run_load session envFile? document
    exact ⟨_, Settings.isOrderly_load lawful _ _ envFile? document, run_map_congr run⟩
  | file _ path =>
    have run := run_loadFile session envFile? path
    exact ⟨_, Settings.isOrderly_loadFile lawful _ _ envFile? path, run_map_congr run⟩
  | @documentWith number name _ found document =>
    have through : (loadWith number name document).run.run session =
        (load envFile? document).run.run session := run_throughAdapter found
    have run := through.trans (run_load session envFile? document)
    exact ⟨_, Settings.isOrderly_load lawful _ _ envFile? document, run_map_congr run⟩
  | @fileWith number name _ found path =>
    have through : (loadFileWith number name path).run.run session =
        (loadFile envFile? path).run.run session := run_throughAdapter found
    have run := through.trans (run_loadFile session envFile? path)
    exact ⟨_, Settings.isOrderly_loadFile lawful _ _ envFile? path, run_map_congr run⟩

/-- An adapter that reads no document leaves the environment alone. -/
theorem environment_of_adapter {number : Nat} {name : Text} {next : Adapter → Action Nat}
    (fixed : ∀ id, next (.fixed id) = copy id)
    (noXml : ∀ envFile?, adapterAt session.registries number name ≠ .ok (.xml envFile?)) :
    ((Reply.handle <$> (adapter number name >>= next)).run.run session).2.environment =
      session.environment := by
  rw [run_map]
  cases found : adapterAt session.registries number name with
  | error e =>
    have looked := run_adapter session number name
    rw [found] at looked
    rw [run_bind_error looked]
  | ok adapter =>
    rw [run_throughAdapter found]
    cases adapter with
    | xml envFile? => exact absurd found (noXml envFile?)
    | fixed id =>
      rw [fixed]
      exact Touches.copy id session .environment (by simp)

theorem environment_of_not_loads (loading : command.isLoading = true)
    (other : ∀ envFile? document?, ¬Loads session.files session.registries command envFile? document?) :
    (command.action.run.run session).2.environment = session.environment := by
  cases command with
  | load envFile? document => exact absurd (.document envFile? document) (other _ _)
  | loadFile envFile? path => exact absurd (.file envFile? path) (other _ _)
  | loadWith number name document =>
    refine environment_of_adapter (fun _ => rfl) fun envFile? found => ?_
    exact other _ _ (.documentWith found document)
  | loadFileWith number name path =>
    refine environment_of_adapter (fun _ => rfl) fun envFile? found => ?_
    exact other _ _ (.fileWith found path)
  | _ => cases loading

/-! ## Steps -/

/-- A document that is accepted is handed out, once its dotenv file has been added. -/
theorem result_step_load {document : Document} {source : Section}
    (accepted : raw document = .ok source)
    (added : (Settings.loadEnv session.loader session.environment session.files envFile?).result = .ok ()) :
    (session.step (.load envFile? document)).2.result = .ok (.handle session.handles.length) := by
  have loaded : ∃ env records entries,
      Settings.load session.loader session.environment session.files envFile? document =
        ⟨env, records, .ok entries⟩ := by
    rw [Settings.load, accepted]
    revert added
    obtain ⟨later, records, result⟩ :=
      Settings.loadEnv session.loader session.environment session.files envFile?
    rintro rfl
    simp only [Settings.expandEntries_eq_ok (Settings.isSection_of_raw accepted)]
    exact ⟨_, _, _, rfl⟩
  obtain ⟨env, records, entries, loaded⟩ := loaded
  show ((Reply.handle <$> takeOver (Settings.load session.loader session.environment session.files envFile?
    document)).run.run session.taken).1 = _
  rw [loaded, run_map, run_takeOver]
  rfl

/-- A loading command keeps all variables, and adds none if its document is refused. -/
theorem environment_of_isLoading (lawful : session.loader.IsLawful isDisabled defined)
    (loading : command.isLoading = true) :
    session.environment.IsKeptIn (command.action.run.run session).2.environment ∧
      ∀ e, (command.action.run.run session).1 = .error (.load e) → e.isOfDocument = true →
        (command.action.run.run session).2.environment = session.environment := by
  by_cases loads : ∃ envFile? document?,
      Loads session.files session.registries command envFile? document?
  · obtain ⟨envFile?, document?, loads⟩ := loads
    obtain ⟨⟨env, records, result⟩, orderly, run⟩ := run_of_loads lawful loads
    rw [run, run_map]
    cases result with
    | error e =>
      rw [run_takeOver_error]
      refine ⟨orderly.kept, fun e' same about => ?_⟩
      cases same
      exact orderly.unchanged e rfl about
    | ok entries =>
      rw [run_takeOver]
      exact ⟨orderly.kept, fun _ failed => nomatch failed⟩
  · rw [environment_of_not_loads loading fun envFile? document? here => loads ⟨_, _, here⟩]
    exact ⟨.refl _, fun _ _ _ => rfl⟩

/-- What is handed out is expanded in the environment that is left. -/
theorem isOpened_of_loads (lawful : session.loader.IsLawful isDisabled defined) {reply : Reply}
    (loads : Loads session.files session.registries command envFile? document?)
    (given : (command.action.run.run session).1 = .ok reply) :
    ∃ handle document, reply = .handle handle ∧ document? = some document ∧
      IsOpened session (command.action.run.run session).2
        (Settings.offered isDisabled defined session.environment session.files envFile?) document handle := by
  obtain ⟨⟨env, records, result⟩, orderly, run⟩ := run_of_loads lawful loads
  rw [run, run_map] at given ⊢
  cases result with
  | error e =>
    rw [run_takeOver_error] at given
    cases given
  | ok entries =>
    rw [run_takeOver] at given ⊢
    cases given
    obtain ⟨document, source, here, accepted, expanded, added⟩ := orderly.expanded entries rfl
    refine ⟨session.handles.length, document, rfl, here, added, ?_⟩
    refine ⟨_, source, List.getElem?_concat_length, accepted, expanded.trans ?_⟩
    exact congrArg Except.ok (Store.table_add _ _).symm

theorem run_setVariable (session : Session) (name value : Text) :
    (setVariable name value).run.run session =
      match session.environment.assign name value with
      | .ok later => (.ok (), { session with environment := later })
      | .error e => (.error (.assign e), session) := by
  unfold setVariable
  rw [run_bind_ok (run_get session)]
  cases session.environment.assign name value <;> rfl

theorem environment_setVariable (session : Session) (name value : Text) :
    (session.step (.setVariable name value)).1.environment =
      match session.environment.assign name value with
      | .ok later => later
      | .error _ => session.environment := by
  have mapped : (Command.setVariable name value).action =
      (fun _ => .value .nothing) <$> setVariable name value := (map_eq_pure_bind _ _).symm
  rw [step_eq, mapped, run_map, run_setVariable]
  simp only [taken]
  cases session.environment.assign name value <;> rfl

/-- A variable keeps its value in every step that does not write it. -/
theorem get?_environment_step (lawful : session.loader.IsLawful isDisabled defined) {name value : Text}
    (unwritten : command.variable? ≠ some name) (known : session.environment.get? name = some value) :
    (session.step command).1.environment.get? name = some value := by
  by_cases loading : command.isLoading = true
  · have lawful : session.taken.loader.IsLawful isDisabled defined := lawful
    exact (environment_of_isLoading lawful loading).1 name value known
  by_cases touched : .environment ∈ command.parts
  · cases command with
    | setVariable other given =>
      rw [environment_setVariable]
      split
      next later assigned =>
        obtain ⟨written, _, named, _, rfl⟩ := Environment.eq_put_of_assign assigned
        rw [Entries.get?_put, if_neg, known]
        rintro rfl
        exact unwritten named
      next => exact known
    | _ => simp [Command.parts, Command.isLoading] at touched loading
  · have same : (session.step command).1.environment = session.environment :=
      session.kept_step touched (by simp)
    rw [same, known]

/-- No command gives a session another loader. -/
theorem loader_step (session : Session) (command : Command) :
    (session.step command).1.loader = session.loader := by
  have untouched : .loader ∉ command.parts := by cases command <;> simp [Command.parts]
  exact session.kept_step untouched (by simp)

/-! ## Runs -/

/-- A variable keeps its value until it is written. -/
theorem get?_environment_runAll (lawful : session.loader.IsLawful isDisabled defined)
    {name value : Text} {commands : List Command}
    (unwritten : ∀ command ∈ commands, command.variable? ≠ some name)
    (known : session.environment.get? name = some value) :
    (session.runAll commands).1.environment.get? name = some value := by
  induction commands generalizing session with
  | nil => exact known
  | cons command rest ih =>
    obtain ⟨here, later⟩ := List.forall_mem_cons.1 unwritten
    have still : (session.step command).1.loader.IsLawful isDisabled defined :=
      session.loader_step command ▸ lawful
    exact ih still later (get?_environment_step lawful here known)

/-- Loading settings changes no variable, and adds none if the document is refused.  What is handed out
    is expanded in the environment with what the dotenv file has added.  So a variable keeps its first
    value until it is written. -/
theorem loading_only_adds (session : Session) (lawful : session.loader.IsLawful isDisabled defined) :
    (∀ command : Command, command.isLoading = true →
      session.environment.IsKeptIn (session.step command).1.environment ∧
      (∀ e, (session.step command).2.result = .error (.load e) → e.isOfDocument = true →
        (session.step command).1.environment = session.environment) ∧
      ∀ envFile? document?, Loads session.files session.registries command envFile? document? →
        ∀ reply, (session.step command).2.result = .ok reply →
          ∃ handle document, reply = .handle handle ∧ document? = some document ∧
            IsOpened session (session.step command).1
              (Settings.offered isDisabled defined session.environment session.files envFile?)
              document handle) ∧
    ∀ commands name value, (∀ command ∈ commands, command.variable? ≠ some name) →
      session.environment.get? name = some value →
        (session.runAll commands).1.environment.get? name = some value := by
  refine ⟨fun command loading => ?_, fun commands name value unwritten known =>
    get?_environment_runAll lawful unwritten known⟩
  have lawful : session.taken.loader.IsLawful isDisabled defined := lawful
  obtain ⟨kept, unchanged⟩ := environment_of_isLoading lawful loading
  refine ⟨kept, unchanged, fun envFile? document? loads reply given => ?_⟩
  obtain ⟨handle, document, same, here, opened⟩ :=
    @isOpened_of_loads session.taken _ _ _ _ _ lawful _ loads given
  exact ⟨handle, document, same, here, opened.added, opened.expanded⟩

end Commands

/-- A document that refers to two variables. -/
def referring : String :=
  "<?xml version='1.0' encoding='utf-8'?>\n<config>\n" ++
    "    <a>$\x7bA||x\x7d</a>\n    <b>$\x7bB\x7d</b>\n</config>"

/-- A variable that is set but empty stays empty, and one that is new is added. -/
theorem loading_only_adds_new :
    let files := (FileTree.empty []).put [".env"] (.file "A=1\nB=2\n".toByteArray)
    let session := start Dotenv.load [("A", "")] files false
    let after := (session.step (.load (some ".env") (.text referring))).1
    after.environment.get? "A" = some ("" : Text) ∧ ∃ handle,
      IsOpened session after
        (Settings.offered Dotenv.isDisabled Dotenv.defined session.environment files (some ".env"))
        (.text referring) handle := by
  intro files session after
  have written : Settings.toDocument Settings.rootName Settings.defaultStep
      (.table [("a", .text "$\x7bA||x\x7d"), ("b", .text "$\x7bB\x7d")]) = .ok referring := rfl
  have accepted := Settings.raw_text_written written (by decide) rfl
  have found (content : ByteArray) : ((FileTree.empty []).put [".env"] (.file content)).find true ".env" =
      .ok (.node [".env"] (.file content)) := by cbv
  have sent (null : FileTree.Fault) : FileTree.systemPath null ".env" = .ok ".env" :=
    FileTree.systemPath_ofString (by decide) null
  have read : Dotenv.text files ".env" = .ok (some "A=1\nB=2\n") := by
    simp only [Dotenv.text, files, FileTree.target?, sent, found]
    rfl
  have added : (Settings.loadEnv session.loader session.environment session.files (some ".env")).result =
      .ok () := by
    have enabled : Dotenv.isDisabled session.environment = false := rfl
    have given : Dotenv.contents session.environment "A=1\nB=2\n" =
        [("A", some (.ofString "1")), ("B", some (.ofString "2"))] := by cbv
    have assigned : session.environment.assign "B" "2" = .ok (session.environment.put "B" "2") := by
      rw [Environment.assign, Text.systemForm?_ofString, Text.systemForm?_ofString]
      rfl
    have done : (Dotenv.addTo session.environment
        (Dotenv.contents session.environment "A=1\nB=2\n")).2 = .ok () := by
      rw [given, Dotenv.addTo_known (show session.environment.get? _ = some (.ofString "") from rfl),
        Dotenv.addTo_new rfl assigned]
      rfl
    show (Dotenv.load session.environment files ".env").result = .ok ()
    simp only [Dotenv.load, enabled, read, done]
    rfl
  obtain ⟨kept, -, opens⟩ :=
    (loading_only_adds session Dotenv.isLawful_load).1 (.load (some ".env") (.text referring)) rfl
  obtain ⟨handle, _, -, same, opened⟩ :=
    opens _ _ (.document _ _) _ (result_step_load accepted added)
  cases same
  exact ⟨kept "A" "" rfl, handle, opened⟩

end Session

end XmlSettings
