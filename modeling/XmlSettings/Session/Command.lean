import XmlSettings.Session.Basic

/-! # Commands

The commands that a session takes, one after the other.  Each gives a reply or a failure, together
with the records that reached the observers meanwhile; a failure stops nothing.
-/

namespace XmlSettings.Session

open XmlSettings.Logging (Record)

inductive Query where
  | flag (key : Text)
  | integer (key : Text)
  | integer64 (key : Text)
  | real (key : Text)
  | text (key : Text)
  | texts (key : Text)
  | entries (key : Text)
  | value (key : Text)
  | flagOr (key : Text) (default : Value)
  | integerOr (key : Text) (default : Value)
  | integer64Or (key : Text) (default : Value)
  | realOr (key : Text) (default : Value)
  | textOr (key : Text) (default : Value)
  | textsOr (key : Text) (default : Value)
  | hasKey (key : Text)
  | shown
  | table

def Query.answer (entries : Section) : Query → Except AccessError Value
  | flag key => .flag <$> entries.flag key
  | integer key => .integer <$> entries.integer key
  | integer64 key => .integer <$> entries.integer64 key
  | real key => .real <$> entries.real key
  | text key => .ok (.text (entries.text key))
  | texts key => .ok (entries.textsOr key .nothing)
  | .entries key =>
    (fun rendered => .table (rendered.map fun (name, s) => (name, .text s))) <$>
      entries.renderedEntries key
  | value key => entries.value key
  | flagOr key default => AccessError.orDefault (.flag <$> entries.flag key) default
  | integerOr key default => AccessError.orDefault (.integer <$> entries.integer key) default
  | integer64Or key default => AccessError.orDefault (.integer <$> entries.integer64 key) default
  | realOr key default => AccessError.orDefault (.real <$> entries.real key) default
  | textOr key default => .ok (entries.textOr key default)
  | textsOr key default => .ok (entries.textsOr key default)
  | hasKey key => .ok (.flag (Entries.hasKey entries key))
  | shown => .ok (.text entries.shown)
  | table => .ok (.table entries)

inductive SettingsSource where
  | nowhere
  | value (value : Value)
  | handle (handle : Nat)

inductive Command where
  | load (envFile? : Option Text) (document : Xml.Document)
  | loadFile (envFile? : Option Text) (path : Text)
  | create (entries : Section)
  | ask (handle : Nat) (query : Query)
  | sub (handle : Nat) (key : Text)
  | write (handle : Nat) (key : Text) (value : Value)
  | isSame (first second : Nat)
  | watch (handle : Nat)
  | save (handle : Nat) (path : Text)
  | fileText (path : Text)
  | decode (handle : Nat) (key : Text) (classes : Schema.Classes) (settings : Schema.Settings)
      (target : Schema.Target)
  | setVariable (name value : Text)
  | getVariable (name : Text)
  | addRegistry (isStandard : Bool)
  | register (registry : Nat) (name : Text) (adapter : NewAdapter)
  | adapterKind (registry : Nat) (name : Text)
  | adapterNames (registry : Nat)
  | hasAdapter (registry : Nat) (name : Text)
  | loadWith (registry : Nat) (name : Text) (document : Xml.Document)
  | loadFileWith (registry : Nat) (name path : Text)
  | setUpLogging (source : SettingsSource) (arguments : Logging.Arguments)
  | describeLogger
  | loggerName (name : Text)
  | emit (name : Text) (level : Logging.Level) (message : Text)
  | takeConsole
  | takeRoot

inductive Reply where
  | value (value : Value)
  | handle (handle : Nat)
  | registry (number : Nat)
  | records (records : List Record)
  /-- The logger, by name after it was set up. -/
  | logger (name? : Option Text) (logger : Logging.Logger)

def SettingsSource.source : SettingsSource → Action Logging.Source
  | nowhere => pure .nowhere
  | value v => pure (.value v)
  | handle number => do return .loaded (← entriesOf number)

def ofText? : Option Text → Value
  | some text => .text text
  | none => .nothing

namespace Command

def action : Command → Action Reply
  | load envFile? document => .handle <$> Session.load envFile? document
  | loadFile envFile? path => .handle <$> Session.loadFile envFile? path
  | create entries => .handle <$> Session.create entries
  | ask handle query => do
    let entries ← entriesOf handle
    .value <$> lift .access (query.answer entries)
  | sub handle key => .handle <$> Session.sub handle key
  | write handle key value => do
    Session.write handle key value
    return .value .nothing
  | isSame first second => do return .value (.flag (← Session.isSame first second))
  | watch handle => do
    Session.watch handle
    return .value .nothing
  | save handle path => do
    Session.save handle path
    return .value .nothing
  | fileText path => do return .value (ofText? (← Session.fileText path))
  | decode handle key classes settings target =>
    .value <$> Session.decode handle key classes settings target
  | setVariable name value => do
    Session.setVariable name value
    return .value .nothing
  | getVariable name => do
    return .value (ofText? (← lift .unencodable ((← get).environment.lookup name)))
  | addRegistry isStandard => .registry <$> Session.addRegistry isStandard
  | register registry name adapter => do
    Session.register registry name adapter
    return .value .nothing
  | adapterKind registry name => do return .value (.text (← adapter registry name).kindName)
  | adapterNames registry => do
    return .value (.list ((← registryOf registry).names.map .text))
  | hasAdapter registry name => do return .value (.flag ((← registryOf registry).contains name))
  | loadWith registry name document => .handle <$> Session.loadWith registry name document
  | loadFileWith registry name path => .handle <$> Session.loadFileWith registry name path
  | setUpLogging source arguments => do
    Session.setUpLogging (← source.source) arguments
    return .logger (some Logging.topName) (← get).journal.logger
  | describeLogger => do return .logger none (← get).journal.logger
  | loggerName name => return .value (.text (Logging.loggerName name))
  | emit name level message => do
    Session.emit name level message
    return .value .nothing
  | takeConsole => do return .value (.text (← Session.takeConsole))
  | takeRoot => .records <$> Session.takeRoot

end Command

structure Answer where
  observed : List Record
  result : Except Failure Reply

def step (session : Session) (command : Command) : Session × Answer :=
  let (_, session) := takeObserved.run.run session
  let (result, session) := command.action.run.run session
  (session, ⟨session.journal.observed, result⟩)

def runAll (session : Session) : List Command → Session × List Answer
  | [] => (session, [])
  | command :: rest =>
    let (session, answer) := session.step command
    let (session, answers) := runAll session rest
    (session, answer :: answers)

end XmlSettings.Session
