import XmlSettings.Schema.Class
import XmlSettings.Value.Message
import XmlSettings.Value.Number

/-! # Runs of the decoder

Decoding leaves notes on keys that it passes over, also where it fails later.  `Run` is a result
together with the notes that were left on the way.
-/

namespace XmlSettings.Schema

inductive Step where
  | field (name : Text)
  | index (i : Nat)
  | key (key : Text)
deriving DecidableEq

/-- The steps from the outermost value to one inside, the last step first. -/
abbrev Path := List Step

/-- A path as messages show it: names and keys with dots between them, and indices in brackets. -/
def Path.text : Path → Text
  | [] => ""
  | .field name :: outer => if outer.isEmpty then name else Path.text outer ++ "." ++ name
  | .index i :: outer => Path.text outer ++ "[" ++ Text.ofString (toString i) ++ "]"
  | .key key :: outer => Path.text outer ++ "." ++ key

/-- What messages call the value at a path: its path, or its class at the very outside. -/
def Path.textOr (path : Path) (className : Text) : Text :=
  if path.isEmpty then className else path.text

inductive DecodeError where
  | noClass (kind : Text)
  | noTable (path : Path) (className kind : Text)
  | unexpected (path : Path) (type kind : Text)
  /-- A value does not stand for one of a scalar type. -/
  | unparsable (path : Path) (value : Value) (type : Scalar)
  | missing (path : Path)
  | unusedKey (path : Path) (className key : Text)
  | noMember (path : Path) (hint : Hint) (errors : List DecodeError)

namespace DecodeError

mutual

def message : DecodeError → Text
  | noClass kind => "decode target must be a dataclass, got " ++ kind
  | noTable path className kind =>
    "'" ++ path.textOr className ++ "': expected a mapping, got " ++ kind
  | unexpected path type kind => "'" ++ path.text ++ "': expected " ++ type ++ ", got " ++ kind
  | unparsable path value type =>
    "'" ++ path.text ++ "': cannot parse " ++ value.inMessage ++ " as " ++ type.name
  | missing path => "'" ++ path.text ++ "' is required but missing"
  | unusedKey path className key =>
    "'" ++ path.textOr className ++ "' has invalid key: " ++ key
  | noMember path hint errors =>
    "'" ++ path.text ++ "': no matching type in " ++ hint.shown ++ ": " ++
      Text.intercalate "; " (messages errors)
termination_by structural e => e

def messages : List DecodeError → List Text
  | [] => []
  | e :: rest => message e :: messages rest
termination_by structural errors => errors

end

end DecodeError

inductive Failure where
  | rejected (e : DecodeError)
  /-- A number has no counterpart in the wanted type, or too many digits to be shown, whatever the
      other members of a union are. -/
  | number (e : NumberError)
  | unbuilt (e : ConstructError)

structure Note where
  key : Text
  className : Text
deriving DecidableEq

def Note.text (note : Note) : Text :=
  "Ignoring unused key '" ++ note.key ++ "' while decoding " ++ note.className

structure Run (α : Type u) where
  notes : List Note
  result : Except Failure α

namespace Run

variable {α β : Type u}

protected def pure (a : α) : Run α := ⟨[], .ok a⟩

protected def bind (run : Run α) (next : α → Run β) : Run β :=
  match run.result with
  | .ok a => ⟨run.notes ++ (next a).notes, (next a).result⟩
  | .error e => ⟨run.notes, .error e⟩

instance : Monad Run where
  pure := Run.pure
  bind := Run.bind

def fail (e : Failure) : Run α := ⟨[], .error e⟩

def reject (e : DecodeError) : Run α := fail (.rejected e)

def note (n : Note) : Run PUnit := ⟨[n], .ok ⟨⟩⟩

/-- Go on with another run if a value turned out not to fit. -/
def orElseRejected (run : Run α) (next : DecodeError → Run α) : Run α :=
  match run.result with
  | .error (.rejected e) => ⟨run.notes ++ (next e).notes, (next e).result⟩
  | _ => run

end Run

end XmlSettings.Schema
