import XmlSettings.Logging.Setup
import XmlSettings.Registry
import XmlSettings.Schema.Target
import XmlSettings.Settings.Save

/-! # Sessions

A session is what a run of the library works on: the environment, files, the sections that have been
handed out, registries, and the logger with what went through it.  Sections are handed out as
handles, numbered in order; several handles may lead to one section.

An operation changes the session even where it fails, as far as it got.
-/

namespace XmlSettings

open XmlSettings.Logging (Journal Record)

structure Session where
  loader : Dotenv.Loader
  environment : Environment
  files : FileTree
  store : Store
  /-- The sections that handles lead to, by the number of the handle. -/
  handles : List SectionId
  registries : List Registry
  journal : Journal

namespace Session

/-- A session before anything is done.  One that is watched has an observer at its logger, which
    takes records of every level. -/
def start (loader : Dotenv.Loader) (environment : Environment) (files : FileTree) (isWatched : Bool) :
    Session where
  loader
  environment
  files
  store := Store.empty
  handles := []
  registries := []
  journal :=
    ⟨if isWatched then ⟨.debug, true, [⟨.unset, false, .plain, .observer⟩]⟩ else ⟨.unset, true, []⟩,
      "", [], []⟩

inductive Failure where
  | access (e : AccessError)
  | load (e : Settings.LoadError)
  | save (e : Settings.SaveError)
  | decode (e : Schema.Failure)
  | registry (e : Registry.Refusal)
  | logging (e : Logging.SetupError)
  | assign (e : Environment.AssignError)
  | unencodable (e : Environment.Unencodable)
  | number (e : NumberError)
  | file (fault : FileTree.Fault)
  | undecodable
  /-- There is no handle or registry of a number. -/
  | noHandle

def Failure.message? : Failure → Option Text
  | access e => e.message?
  | load e => e.message?
  | save e => e.message?
  | decode (.rejected e) => some e.message
  | decode (.number e) => e.message?
  | decode (.unbuilt _) => none
  | registry e => some e.message
  | logging (.notANumber e) => e.message?
  | logging (.unusableFile fault) => fault.message?
  | logging _ => none
  | assign e => e.message?
  | unencodable _ => none
  | number e => e.message?
  | file fault => fault.message?
  | undecodable => none
  | noHandle => none

abbrev Action (α : Type) := ExceptT Failure (StateM Session) α

/-! ## Handles -/

def sectionOf (handle : Nat) : Action SectionId := do
  match (← get).handles[handle]? with
  | some id => pure id
  | none => throw .noHandle

def entriesOf (handle : Nat) : Action Section := do
  let id ← sectionOf handle
  return (← get).store.table id

def handOut (id : SectionId) : Action Nat := do
  let session ← get
  set { session with handles := session.handles ++ [id] }
  return session.handles.length

def create (entries : Section) : Action Nat := do
  let session ← get
  let (store, id) := session.store.add entries
  set { session with store }
  handOut id

def log (records : List Record) : Action Unit :=
  modify fun session =>
    let (journal, files) := session.journal.logAll session.files records
    { session with journal, files }

def lift {ε α : Type} (wrap : ε → Failure) (result : Except ε α) : Action α :=
  match result with
  | .ok a => pure a
  | .error e => throw (wrap e)

/-! ## Loading and saving -/

/-- Take over what comes of loading settings, and hand them out. -/
def takeOver (load : Settings.Load) : Action Nat := do
  -- The environment and the records stay where loading fails, too.
  modify fun session => { session with environment := load.environment }
  log load.records
  create (← lift .load load.result)

def load (envFile? : Option Text) (document : Xml.Document) : Action Nat := do
  let session ← get
  takeOver (Settings.load session.loader session.environment session.files envFile? document)

def loadFile (envFile? : Option Text) (path : Text) : Action Nat := do
  let session ← get
  takeOver (Settings.loadFile session.loader session.environment session.files envFile? path)

def save (handle : Nat) (path : Text) : Action Unit := do
  let entries ← entriesOf handle
  let saved := Settings.save (← get).files path entries
  modify fun session => { session with files := saved.files }
  log saved.records
  lift .save saved.result

/-- The text of a file; none if there is no such file. -/
def fileText (path : Text) : Action (Option Text) := do
  match (← get).files.target? path with
  | some (.file content) =>
    match String.fromUTF8? content with
    | some s => return some s
    | none => throw .undecodable
  | some .directory => throw (.file .isADirectory)
  | _ => return none

/-! ## Sections -/

/-- The section under a key of a section.  The empty key leads to the section itself. -/
def narrow (store : Store) (id : SectionId) (key : Text) : Except AccessError SectionId :=
  if key = "" then .ok id
  else
    match (store.entries id).get? key with
    | none => .error (.missingSection key)
    | some (.nested child) => .ok child
    | some (.plain _) => .error (.notASection key)

def sub (handle : Nat) (key : Text) : Action Nat := do
  let id ← sectionOf handle
  let child ← lift .access (narrow (← get).store id key)
  handOut child

def write (handle : Nat) (key : Text) (value : Value) : Action Unit := do
  let id ← sectionOf handle
  let text ← lift .number value.written
  modify fun session => { session with store := session.store.set id key text }

def noteRecord (note : Schema.Note) : Record :=
  ⟨.debug, Logging.decoderName, note.text⟩

def decode (handle : Nat) (key : Text) (classes : Schema.Classes) (settings : Schema.Settings)
    (target : Schema.Target) : Action Value := do
  let id ← sectionOf handle
  let store := (← get).store
  let child ← lift .access (narrow store id key)
  let run := Schema.decode classes settings target (.table (store.table child))
  log (run.notes.map noteRecord)
  lift .decode run.result

def isSame (first second : Nat) : Action Bool := do
  return (← sectionOf first) == (← sectionOf second)

/-- Ask to be told of changes, which is not done. -/
def watch (handle : Nat) : Action Unit := do
  let _ ← sectionOf handle
  log [Settings.loaderRecord .warning "Unsupported operation"]

/-! ## Registries -/

def registryOf (number : Nat) : Action Registry := do
  match (← get).registries[number]? with
  | some registry => pure registry
  | none => throw .noHandle

def addRegistry (isStandard : Bool) : Action Nat := do
  if isStandard then log [Registry.registration Registry.standardName]
  let session ← get
  let registry := if isStandard then Registry.standard else Registry.empty
  set { session with registries := session.registries ++ [registry] }
  return session.registries.length

inductive NewAdapter where
  | nothing
  | xml (envFile? : Option Text)
  | fixed (entries : Section)

/-- The adapter for what is to be registered, with the entries that it gives added to the store. -/
def NewAdapter.adapter? (store : Store) : NewAdapter → Store × Option Adapter
  | nothing => (store, none)
  | xml envFile? => (store, some (.xml envFile?))
  | fixed entries =>
    let (store, id) := store.add entries
    (store, some (.fixed id))

def register (number : Nat) (name : Text) (adapter : NewAdapter) : Action Unit := do
  let registry ← registryOf number
  let session ← get
  let (store, adapter?) := adapter.adapter? session.store
  let registry ← lift .registry (registry.register name adapter?)
  set { session with store, registries := session.registries.set number registry }
  log [Registry.registration name]

def adapter (number : Nat) (name : Text) : Action Adapter := do
  lift .registry ((← registryOf number).find name)

def copy (source : SectionId) : Action Nat := do
  let session ← get
  let (store, id) := session.store.copy source
  set { session with store }
  handOut id

def loadWith (number : Nat) (name : Text) (document : Xml.Document) : Action Nat := do
  match ← adapter number name with
  | .xml envFile? => load envFile? document
  | .fixed id => copy id

def loadFileWith (number : Nat) (name path : Text) : Action Nat := do
  match ← adapter number name with
  | .xml envFile? => loadFile envFile? path
  | .fixed id => copy id

/-! ## Environment and logging -/

def setVariable (name value : Text) : Action Unit := do
  let session ← get
  let environment ← lift .assign (session.environment.assign name value)
  set { session with environment }

def setUpLogging (source : Logging.Source) (arguments : Logging.Arguments) : Action Unit := do
  let session ← get
  let (logger, files, result) := session.journal.logger.setUp session.files source arguments
  set { session with files, journal := { session.journal with logger } }
  log [← lift .logging result]

def emit (name : Text) (level : Logging.Level) (message : Text) : Action Unit :=
  log [⟨level, Logging.loggerName name, message⟩]

def takeConsole : Action Text := do
  let session ← get
  set { session with journal := { session.journal with console := "" } }
  return session.journal.console

def takeRoot : Action (List Record) := do
  let session ← get
  set { session with journal := { session.journal with root := [] } }
  return session.journal.root

def takeObserved : Action (List Record) := do
  let session ← get
  set { session with journal := { session.journal with observed := [] } }
  return session.journal.observed

end Session

end XmlSettings
