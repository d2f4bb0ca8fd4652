import XmlSettings.Dotenv.Loader
import XmlSettings.Placeholder
import XmlSettings.Settings.OfElement
import XmlSettings.Settings.Section
import XmlSettings.Xml.Document

/-! # Loading settings

The settings of a document are the entries inside its root element, which has to be named `config`
and to hold something.  Once that is clear a dotenv file may add to the environment, and then every
placeholder in the settings is expanded.

Loading leaves log records, also where it fails.
-/

namespace XmlSettings.Settings

open XmlSettings.Dotenv (Loader)
open XmlSettings.Logging (Level Record)
open XmlSettings.Xml (Document)

def rootName : Text := "config"

inductive LoadError where
  | unreadable (fault : FileTree.Fault)
  | noDocument (e : Document.ReadError)
  | otherRoot
  /-- The root element holds a text only. -/
  | flatRoot
  | dotenv (e : Dotenv.Failure)
  | unencodable (e : Environment.Unencodable)

namespace LoadError

def message? : LoadError → Option Text
  | unreadable fault => fault.message?
  | noDocument (.refused refusal) => some (Text.ofString ("xml parse error: " ++ refusal.message))
  | noDocument e => e.message?.map .ofString
  | otherRoot => some "xml parse should include in <config></config> tags"
  | flatRoot => some "xml parse <config></config> tags should include sub tags"
  | dotenv e => e.message?
  | unencodable _ => none

def logged? : LoadError → Option Text
  | noDocument (.refused refusal) => some (Text.ofString ("Failed to parse XML configuration: " ++ refusal.message))
  | otherRoot => some "XML configuration is missing the <config> wrapping element"
  | flatRoot => some "XML configuration <config> element has no nested elements"
  | _ => none

end LoadError

structure Load where
  environment : Environment
  records : List Record
  result : Except LoadError Section

def loaderRecord (level : Level) (message : Text) : Record :=
  ⟨level, Logging.loaderName, message⟩

def raw (document : Document) : Except LoadError Section :=
  match document.root with
  | .error e => .error (.noDocument e)
  | .ok root =>
    if (root.name : Text) = rootName then
      match ofElement root with
      | .table entries => .ok entries
      | _ => .error .flatRoot
    else .error .otherRoot

def loadEnv (loader : Loader) (env : Environment) (files : FileTree) (envFile? : Option Text) :
    Dotenv.Outcome :=
  match envFile? with
  | none => ⟨env, [], .ok ()⟩
  | some path => loader env files path

def load (loader : Loader) (env : Environment) (files : FileTree) (envFile? : Option Text)
    (document : Document) : Load :=
  match raw document with
  | .error e => ⟨env, (e.logged?.map (loaderRecord .error)).toList, .error e⟩
  | .ok entries =>
    match loadEnv loader env files envFile? with
    | ⟨env, records, .error e⟩ => ⟨env, records, .error (.dotenv e)⟩
    | ⟨env, records, .ok ()⟩ =>
      match Value.expandEntries env entries with
      | .error e => ⟨env, records, .error (.unencodable e)⟩
      | .ok expanded =>
        let message := s!"Parsed XML configuration with {expanded.length} top-level keys"
        ⟨env, records ++ [loaderRecord .debug message], .ok expanded⟩

def loadFile (loader : Loader) (env : Environment) (files : FileTree) (envFile? : Option Text)
    (path : Text) : Load :=
  let path := Path.tidy path
  match files.read path with
  | .error fault => ⟨env, [], .error (.unreadable fault)⟩
  | .ok content =>
    let loaded := load loader env files envFile? (.bytes content)
    match loaded.result with
    | .error _ => loaded
    | .ok _ =>
      let record := loaderRecord .info ("Loaded XML configuration from " ++ path)
      { loaded with records := loaded.records ++ [record] }

end XmlSettings.Settings
