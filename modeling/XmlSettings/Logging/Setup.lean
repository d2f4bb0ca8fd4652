import XmlSettings.Logging.Journal
import XmlSettings.Logging.Size
import XmlSettings.Settings.Section

/-! # Setting up logging

The library's logger gets a level, handlers for the console and a log file, and a choice whether
records go on to the root.  The section `logging` of the settings, if there is one, wins over the
arguments.  The handlers of an earlier set-up go; foreign handlers stay.

The number of backups and the level are read before anything changes (`Source.plan`).  The size of the
log file is read only if there is one, after the earlier handlers are gone and the new level is set
(`Logger.cleared`).
-/

namespace XmlSettings.Logging

structure Arguments where
  level : Value
  file : Value
  maxSize : Value
  backups : Value
  console : Value
  propagate : Value

def Arguments.standard : Arguments where
  level := .text "INFO"
  file := .nothing
  maxSize := .text "10MB"
  backups := .integer 5
  console := .flag true
  propagate := .flag true

/-- Where the section `logging` is looked for. -/
inductive Source where
  | nowhere
  | value (value : Value)
  | loaded (entries : Section)

inductive SetupError where
  /-- There is a value where a section is wanted. -/
  | noSection
  /-- The number of backups or the size of the log file is no number, or there is an integer that
      cannot be written. -/
  | notANumber (e : NumberError)
  | noPath
  | unusableFile (fault : FileTree.Fault)

def sectionKey : Text := "logging"

/-- The entries of the section.  Loaded settings give them as texts, all of them or none; no section
    counts as an empty one. -/
def Source.entries : Source → Except SetupError Section
  | nowhere => .ok []
  | value (.table entries) =>
    match Entries.get? entries sectionKey with
    | none => .ok []
    | some (.table inner) => .ok inner
    | some other => if other.isTruthy then .error .noSection else .ok []
  | value .nothing => .ok []
  | value _ => .error .noSection
  | loaded entries =>
    match entries.renderedEntries sectionKey with
    | .ok rendered => .ok (rendered.map fun (key, text) => (key, .text text))
    | .error (.unreadable e) => .error (.notANumber e)
    | .error _ => .ok []

def Arguments.override (arguments : Arguments) (entries : Section) : Arguments :=
  { arguments with
    level := (entries.get? "level").getD arguments.level
    file := (entries.get? "file").getD arguments.file
    maxSize := (entries.get? "max_file_size").getD arguments.maxSize
    backups := (entries.get? "backup_count").getD arguments.backups }

/-- The level that a value names in any case; a value that names none stands for `info`. -/
def Level.ofValue (value : Value) : Except NumberError Level := do
  return ((← capitals value).string?.bind Level.ofName?).getD .info

/-- What is settled before a set-up changes anything. -/
structure Plan where
  arguments : Arguments
  backups : Int
  level : Level

/-- Find the arguments in force, and read the number of backups and the level. -/
def Source.plan (source : Source) (arguments : Arguments) : Except SetupError Plan := do
  let arguments := arguments.override (← source.entries)
  let backups ← arguments.backups.toInteger.mapError .notANumber
  let level ← (Level.ofValue arguments.level).mapError .notANumber
  return ⟨arguments, backups, level⟩

def openLog (files : FileTree) (path : Text) (maxSize : Value) (backups : Int) :
    FileTree × Except SetupError LogFile :=
  match files.makeDirectories (Path.root path) (Path.parentNames path).reverse with
  | (files, .error fault) => (files, .error (.unusableFile fault))
  | (files, .ok ()) =>
    match sizeOf maxSize with
    | .error e => (files, .error (.notANumber e))
    | .ok maxBytes =>
      let path := files.absolutePath path
      match files.openAtEnd path with
      | .error fault => (files, .error (.unusableFile fault))
      | .ok (files, place) => (files, .ok ⟨place, path, maxBytes, backups⟩)

def Plan.fileHandlers (plan : Plan) (files : FileTree) : FileTree × Except SetupError (List Handler) :=
  if plan.arguments.file.isTruthy then
    match plan.arguments.file with
    | .text path =>
      match openLog files path plan.arguments.maxSize plan.backups with
      | (files, .ok log) => (files, .ok [⟨plan.level, true, .standard, .file log⟩])
      | (files, .error e) => (files, .error e)
    | _ => (files, .error .noPath)
  else (files, .ok [])

def Plan.consoleHandlers (plan : Plan) : List Handler :=
  if plan.arguments.console.isTruthy then [⟨plan.level, true, .standard, .console⟩] else []

def Plan.record (plan : Plan) : Record :=
  ⟨.debug, topName, "Logging configured - Level: " ++ plan.level.name ++ ", File: " ++
    plan.arguments.file.plainText⟩

def Logger.foreign (logger : Logger) : List Handler :=
  logger.handlers.filter fun handler => !handler.isOwned

/-- A logger with the level and the propagation of a plan, without the handlers of an earlier set-up. -/
def Logger.cleared (logger : Logger) (plan : Plan) : Logger :=
  ⟨plan.level, plan.arguments.propagate.isTruthy, logger.foreign⟩

/-- Set up a logger.  A success leaves a record that tells the level and the log file. -/
def Logger.setUp (logger : Logger) (files : FileTree) (source : Source) (arguments : Arguments) :
    Logger × FileTree × Except SetupError Record :=
  match source.plan arguments with
  | .error e => (logger, files, .error e)
  | .ok plan =>
    let cleared := logger.cleared plan
    match plan.fileHandlers files with
    | (files, .error e) => (cleared, files, .error e)
    | (files, .ok opened) =>
      ({ cleared with handlers := cleared.handlers ++ plan.consoleHandlers ++ opened }, files,
        .ok plan.record)

end XmlSettings.Logging
