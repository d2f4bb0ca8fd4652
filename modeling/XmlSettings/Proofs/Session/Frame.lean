import XmlSettings.Proofs.Session.Step

/-! # What a command leaves alone

A command changes some parts of a session only, those that `Command.parts` lists.  Every other part is
the same after it, also where the command fails (`kept_step`).
-/

namespace XmlSettings.Session

open XmlSettings.Logging (Journal Record)

/-- A part of a session. -/
inductive Part where
  | loader
  | environment
  | files
  /-- The sections with the handles that lead to them. -/
  | sections
  | registries
  | logger
  /-- What was logged, together with the logger. -/
  | journal
deriving DecidableEq

/-- Whether a part of a session is the same in another one. -/
def Part.IsSame (before after : Session) : Part → Prop
  | loader => after.loader = before.loader
  | environment => after.environment = before.environment
  | files => after.files = before.files
  | sections => after.store = before.store ∧ after.handles = before.handles
  | registries => after.registries = before.registries
  | logger => after.journal.logger = before.journal.logger
  | journal => after.journal = before.journal

namespace Part.IsSame

variable {before middle after : Session} {part : Part}

theorem refl (session : Session) (part : Part) : part.IsSame session session := by
  cases part <;> simp [IsSame]

theorem trans (first : part.IsSame before middle) (second : part.IsSame middle after) :
    part.IsSame before after := by
  cases part <;> simp_all [IsSame]

end Part.IsSame

/-! ## Actions -/

/-- Whether an action changes no parts but some. -/
def Touches {α : Type} (parts : List Part) (action : Action α) : Prop :=
  ∀ session : Session, ∀ part ∉ parts, part.IsSame session (action.run.run session).2

/-- The registry of a number. -/
def registryAt (registries : List Registry) (number : Nat) : Except Failure Registry :=
  match registries[number]? with
  | some registry => .ok registry
  | none => .error .noHandle

/-- The adapter of a name in the registry of a number. -/
def adapterAt (registries : List Registry) (number : Nat) (name : Text) : Except Failure Adapter :=
  (registryAt registries number).bind fun registry => (registry.find name).mapError .registry

/-- Looking for a registry or an adapter changes nothing. -/
theorem run_registryOf (session : Session) (number : Nat) :
    (registryOf number).run.run session = (registryAt session.registries number, session) := by
  unfold registryOf registryAt
  rw [run_bind_ok (run_get session)]
  cases session.registries[number]? <;> rfl

theorem run_adapter (session : Session) (number : Nat) (name : Text) :
    (adapter number name).run.run session = (adapterAt session.registries number name, session) := by
  have found := run_registryOf session number
  unfold adapter adapterAt
  cases known : registryAt session.registries number with
  | error e =>
    rw [known] at found
    exact run_bind_error found
  | ok registry =>
    rw [known] at found
    rw [run_bind_ok found]
    simp only [Except.bind]
    cases registry.find name <;> rfl

namespace Touches

variable {α β : Type} {parts more : List Part} {action : Action α} {next : α → Action β}

theorem mono (touches : Touches parts action) (included : parts ⊆ more) : Touches more action :=
  fun session part untouched => touches session part fun member => untouched (included member)

theorem pure (a : α) : Touches parts (Pure.pure a : Action α) := fun _ _ _ => .refl _ _

theorem throw (e : Failure) : Touches parts (MonadExcept.throw e : Action α) := fun _ _ _ => .refl _ _

theorem get : Touches parts (MonadState.get : Action Session) := fun _ _ _ => .refl _ _

theorem bind (first : Touches parts action) (rest : ∀ a, Touches parts (next a)) :
    Touches parts (action >>= next) := by
  intro session part untouched
  cases given : action.run.run session with
  | mk result after =>
    have same := first session part untouched
    rw [given] at same
    cases result with
    | error e =>
      rw [run_bind_error given]
      exact same
    | ok a =>
      rw [run_bind_ok given]
      exact same.trans (rest a after part untouched)

theorem map (f : α → β) (touches : Touches parts action) : Touches parts (f <$> action) := by
  rw [map_eq_pure_bind]
  exact touches.bind fun _ => pure _

theorem lift {ε : Type} (wrap : ε → Failure) (result : Except ε α) :
    Touches parts (Session.lift wrap result) := by
  cases result with
  | error e => exact throw (wrap e)
  | ok a => exact pure a

/-! ### Looking things up -/

theorem sectionOf (handle : Nat) : Touches parts (Session.sectionOf handle) := by
  apply get.bind
  intro session
  cases session.handles[handle]? with
  | none => exact throw .noHandle
  | some id => exact pure id

theorem entriesOf (handle : Nat) : Touches parts (Session.entriesOf handle) :=
  (sectionOf handle).bind fun _ => get.bind fun _ => pure _

theorem registryOf (number : Nat) : Touches parts (Session.registryOf number) := by
  intro session part _
  rw [run_registryOf]
  exact .refl _ _

theorem adapter (number : Nat) (name : Text) : Touches parts (Session.adapter number name) :=
  (registryOf number).bind fun _ => lift _ _

theorem isSame (first second : Nat) : Touches parts (Session.isSame first second) :=
  (sectionOf first).bind fun _ => (sectionOf second).bind fun _ => pure _

theorem fileText (path : Text) : Touches parts (Session.fileText path) := by
  apply get.bind
  intro session
  split
  next => split <;> first | exact pure _ | exact throw _
  next => exact throw _
  next => exact pure _

theorem source (source : SettingsSource) : Touches parts source.source := by
  cases source with
  | nowhere => exact pure _
  | value v => exact pure _
  | handle number => exact (entriesOf number).bind fun _ => pure _

/-! ### Changes -/

theorem log (records : List Record) : Touches [.files, .journal] (Session.log records) := by
  intro session part untouched
  cases part with
  | logger => exact Journal.logger_logAll session.journal session.files records
  | sections => exact ⟨rfl, rfl⟩
  | files | journal => simp at untouched
  | loader | environment | registries => exact rfl

theorem handOut (id : SectionId) : Touches [.sections] (Session.handOut id) := by
  intro session part untouched
  cases part <;> first | exact rfl | simp at untouched

theorem create (entries : Section) : Touches [.sections] (Session.create entries) := by
  intro session part untouched
  cases part <;> first | exact rfl | simp at untouched

theorem copy (source : SectionId) : Touches [.sections] (Session.copy source) := by
  intro session part untouched
  cases part <;> first | exact rfl | simp at untouched

theorem sub (handle : Nat) (key : Text) : Touches [.sections] (Session.sub handle key) :=
  (sectionOf handle).bind fun _ => get.bind fun _ => (lift _ _).bind handOut

theorem write (handle : Nat) (key : Text) (value : Value) :
    Touches [.sections] (Session.write handle key value) := by
  refine (sectionOf handle).bind fun id => (lift _ _).bind fun text => ?_
  intro session part untouched
  cases part <;> first | exact rfl | simp at untouched

theorem takeOver (load : Settings.Load) :
    Touches [.environment, .files, .sections, .journal] (Session.takeOver load) := by
  have moved : Touches [.environment, .files, .sections, .journal] (modify fun session => { session with
      environment := load.environment } : Action PUnit) := by
    intro session part untouched
    cases part <;> first | exact rfl | simp at untouched
  refine moved.bind fun _ => ((log _).mono (by simp)).bind fun _ => (lift _ _).bind fun entries => ?_
  exact (create entries).mono (by simp)

theorem save (handle : Nat) (path : Text) : Touches [.files, .journal] (Session.save handle path) := by
  apply (entriesOf handle).bind
  intro entries
  apply get.bind
  intro session
  have replaced : Touches [.files, .journal] (modify fun current => { current with
      files := (Settings.save session.files path entries).files } : Action PUnit) := by
    intro session part untouched
    cases part <;> first | exact rfl | exact ⟨rfl, rfl⟩ | simp at untouched
  exact replaced.bind fun _ => (log _).bind fun _ => lift _ _

theorem decode (handle : Nat) (key : Text) (classes : Schema.Classes) (settings : Schema.Settings)
    (target : Schema.Target) :
    Touches [.files, .journal] (Session.decode handle key classes settings target) := by
  apply (sectionOf handle).bind
  intro id
  apply get.bind
  intro session
  apply (lift _ _).bind
  intro child
  exact (log _).bind fun _ => lift _ _

theorem setVariable (name value : Text) :
    Touches [.environment] (Session.setVariable name value) := by
  intro session part untouched
  unfold Session.setVariable
  rw [run_bind_ok (run_get session)]
  cases session.environment.assign name value <;> cases part <;>
    first | exact rfl | exact ⟨rfl, rfl⟩ | simp at untouched

theorem addRegistry (isStandard : Bool) :
    Touches [.files, .registries, .journal] (Session.addRegistry isStandard) := by
  intro session part untouched
  have logged := Journal.logger_logAll session.journal session.files
    [Registry.registration Registry.standardName]
  cases isStandard <;> cases part <;>
    (first | exact rfl | exact ⟨rfl, rfl⟩ | exact logged | simp at untouched)

theorem register (number : Nat) (name : Text) (new : NewAdapter) :
    Touches [.files, .sections, .registries, .journal] (Session.register number name new) := by
  apply (registryOf number).bind
  intro registry session part untouched
  rw [run_bind_ok (run_get session)]
  cases given : new.adapter? session.store with
  | mk store adapter? =>
    simp only
    have logged := Journal.logger_logAll session.journal session.files [Registry.registration name]
    cases registry.register name adapter? <;> cases part <;>
      (first | exact rfl | exact ⟨rfl, rfl⟩ | exact logged | simp at untouched)

theorem setUpLogging (source : Logging.Source) (arguments : Logging.Arguments) :
    Touches [.files, .logger, .journal] (Session.setUpLogging source arguments) := by
  intro session part untouched
  unfold Session.setUpLogging
  rw [run_bind_ok (run_get session)]
  cases session.journal.logger.setUp session.files source arguments with
  | mk logger rest =>
    obtain ⟨files, result⟩ := rest
    cases result <;> cases part <;> first | exact rfl | exact ⟨rfl, rfl⟩ | simp at untouched

theorem takeConsole : Touches [.journal] Session.takeConsole := by
  intro session part untouched
  cases part <;> first | exact rfl | exact ⟨rfl, rfl⟩ | simp at untouched

theorem takeRoot : Touches [.journal] Session.takeRoot := by
  intro session part untouched
  cases part <;> first | exact rfl | exact ⟨rfl, rfl⟩ | simp at untouched

end Touches

/-! ## Commands -/

/-- The parts that a command may change. -/
def Command.parts : Command → List Part
  | load _ _ | loadFile _ _ | loadWith _ _ _ | loadFileWith _ _ _ =>
    [.environment, .files, .sections, .journal]
  | create _ | sub _ _ | write _ _ _ => [.sections]
  | watch _ | save _ _ | decode _ _ _ _ _ | emit _ _ _ => [.files, .journal]
  | setUpLogging _ _ => [.files, .logger, .journal]
  | setVariable _ _ => [.environment]
  | addRegistry _ => [.files, .registries, .journal]
  | register _ _ _ => [.files, .sections, .registries, .journal]
  | takeConsole | takeRoot => [.journal]
  | ask _ _ | isSame _ _ | fileText _ | getVariable _ | adapterKind _ _ | adapterNames _ | hasAdapter _ _
  | describeLogger | loggerName _ => []

namespace Touches

variable {parts : List Part}

theorem load (envFile? : Option Text) (document : Xml.Document) :
    Touches [.environment, .files, .sections, .journal] (Session.load envFile? document) :=
  get.bind fun _ => takeOver _

theorem loadFile (envFile? : Option Text) (path : Text) :
    Touches [.environment, .files, .sections, .journal] (Session.loadFile envFile? path) :=
  get.bind fun _ => takeOver _

/-- What goes through an adapter touches no more than either kind of adapter does. -/
theorem throughAdapter {number : Nat} {name : Text} {next : Adapter → Action Nat}
    (xml : ∀ envFile?, Touches [.environment, .files, .sections, .journal] (next (.xml envFile?)))
    (fixed : ∀ id, next (.fixed id) = Session.copy id) :
    Touches [.environment, .files, .sections, .journal] (Session.adapter number name >>= next) := by
  apply (adapter number name).bind
  intro found
  cases found with
  | xml envFile? => exact xml envFile?
  | fixed id =>
    rw [fixed]
    exact (copy id).mono (by simp)

theorem action (command : Command) : Touches command.parts command.action := by
  cases command with
  | load envFile? document => exact (load envFile? document).map _
  | loadFile envFile? path => exact (loadFile envFile? path).map _
  | create entries => exact (create entries).map _
  | ask handle query => exact (entriesOf handle).bind fun _ => (lift _ _).map _
  | sub handle key => exact (sub handle key).map _
  | write handle key value => exact (write handle key value).bind fun _ => pure _
  | isSame first second => exact (isSame first second).bind fun _ => pure _
  | watch handle =>
    have watched : Touches [.files, .journal] (Session.watch handle) :=
      (sectionOf handle).bind fun _ => log _
    exact watched.bind fun _ => pure _
  | save handle path => exact (save handle path).bind fun _ => pure _
  | fileText path => exact (fileText path).bind fun _ => pure _
  | decode handle key classes settings target => exact (decode handle key classes settings target).map _
  | setVariable name value => exact (setVariable name value).bind fun _ => pure _
  | getVariable name => exact get.bind fun _ => (lift _ _).map _
  | addRegistry isStandard => exact (addRegistry isStandard).map _
  | register registry name adapter => exact (register registry name adapter).bind fun _ => pure _
  | adapterKind registry name => exact (adapter registry name).bind fun _ => pure _
  | adapterNames registry => exact (registryOf registry).bind fun _ => pure _
  | hasAdapter registry name => exact (registryOf registry).bind fun _ => pure _
  | loadWith registry name document =>
    exact (throughAdapter (fun envFile? => load envFile? document) fun _ => rfl).map _
  | loadFileWith registry name path =>
    exact (throughAdapter (fun envFile? => loadFile envFile? path) fun _ => rfl).map _
  | setUpLogging source arguments =>
    refine (Touches.source source).bind fun given => ?_
    exact (setUpLogging given arguments).bind fun _ => get.bind fun _ => pure _
  | describeLogger => exact get.bind fun _ => pure _
  | loggerName name => exact pure _
  | emit name level message => exact (log _).bind fun _ => pure _
  | takeConsole => exact takeConsole.bind fun _ => pure _
  | takeRoot => exact takeRoot.map _

end Touches

/-- A command leaves alone what it does not list, apart from the journal, of which the records at the
    observers are taken first. -/
theorem kept_step (session : Session) {command : Command} {part : Part}
    (untouched : part ∉ command.parts) (notJournal : part ≠ .journal) :
    part.IsSame session (session.step command).1 := by
  have same := Touches.action command session.taken part untouched
  rw [step_eq]
  refine Part.IsSame.trans ?_ same
  cases part <;> first | exact rfl | exact ⟨rfl, rfl⟩ | exact absurd rfl notJournal

end XmlSettings.Session
