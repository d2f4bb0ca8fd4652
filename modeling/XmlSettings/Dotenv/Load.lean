import XmlSettings.Dotenv.Loader
import XmlSettings.Dotenv.Reference
import XmlSettings.Dotenv.Statement
import XmlSettings.Text.UpperCase

/-! # Loading a dotenv file

The variables of a dotenv file are added to an environment.  References in a value are replaced
first, by variables of the environment or else by earlier ones of the file.  A variable that the
environment has already keeps its value.
-/

namespace XmlSettings.Dotenv

open XmlSettings.Environment (AssignError)
open XmlSettings.Logging (Record)

/-- The text of a file with the line feed as its only line end and without a byte order mark. -/
def plainText : List Char → List Char :=
  fun s => lines (if s.head? = some '\ufeff' then s.drop 1 else s)
where
  lines : List Char → List Char
    | '\r' :: '\n' :: rest => '\n' :: lines rest
    | '\r' :: rest => '\n' :: lines rest
    | c :: rest => c :: lines rest
    | [] => []

def lookup (env : Environment) (earlier : Variables) (name : String) : Option (Option Text) :=
  match env.get? name with
  | some value => some (some value)
  | none => earlier.get? name

/-- The variables that statements define, later ones in place of earlier ones of the same name. -/
def resolve (env : Environment) (statements : List Statement) : Variables :=
  statements.foldl (fun earlier statement =>
    match statement with
    | .assignment name (some value) =>
      earlier.put name
        (some (.ofList (Reference.replaceAll (lookup env earlier) value.toList)))
    | .assignment name none => earlier.put name none
    | _ => earlier) []

/-- Add the variables that an environment does not have yet, up to one that it cannot hold. -/
def addTo (env : Environment) : Variables → Environment × Except AssignError Unit
  | [] => (env, .ok ())
  | (name, value?) :: rest =>
    match env.hasKey name, value? with
    | false, some value =>
      match env.assign name value with
      | .ok env => addTo env rest
      | .error e => (env, .error e)
    | _, _ => addTo env rest

def switch : Text := "PYTHON_DOTENV_DISABLED"

/-- The values, in capitals, with which the switch turns loading off. -/
def disablingWords : List Text := ["1", "TRUE", "T", "YES", "Y"]

def isDisabled (env : Environment) : Bool :=
  match env.get? switch with
  | some value => Text.upper value ∈ disablingWords
  | none => false

def text (files : FileTree) (path : Text) : Except Failure (Option String) :=
  match FileTree.systemPath (.nullCharacter "stat") path with
  | .error fault => .error (.noPath fault)
  | .ok _ =>
    match files.target? path with
    | some (.file content) =>
      match String.fromUTF8? content with
      | some text => .ok (some text)
      | none => .error .undecodable
    | _ => .ok none

def contents (env : Environment) (text : String) : Variables :=
  resolve env ((Statement.all 1 (plainText text.toList)).map (·.2))

def skipped (text : String) : List Nat :=
  (Statement.all 1 (plainText text.toList)).filterMap fun (line, statement) =>
    match statement with
    | .malformed => some line
    | _ => none

def skippedRecord (line : Nat) : Record :=
  ⟨.warning, Logging.dotenvName,
    Text.ofString s!"python-dotenv could not parse statement starting at line {line}"⟩

def load : Loader := fun env files path =>
  if isDisabled env then ⟨env, [], .ok ()⟩
  else
    match text files path with
    | .error e => ⟨env, [], .error e⟩
    | .ok none => ⟨env, [], .ok ()⟩
    | .ok (some text) =>
      let (environment, result) := addTo env (contents env text)
      ⟨environment, (skipped text).map skippedRecord, result.mapError .unassignable⟩

end XmlSettings.Dotenv
