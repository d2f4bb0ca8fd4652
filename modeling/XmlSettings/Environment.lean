import XmlSettings.Entries
import XmlSettings.Text.System

/-! # Environments

Environment variables with their values, as they come back from the operating system.  A name that
cannot go there is no name to look up, and a variable that is written needs a name that the
environment can hold.
-/

namespace XmlSettings

abbrev Environment := Entries Text Text

namespace Environment

/-- A text that cannot go to the operating system. -/
structure Unencodable where
  text : Text
deriving DecidableEq

def lookup (env : Environment) (name : Text) : Except Unencodable (Option Text) :=
  match name.systemForm? with
  | none => .error ⟨name⟩
  | some name => .ok (env.get? name)

inductive AssignError where
  | unencodable (failure : Unencodable)
  | nullByte
  | illegalName
  | emptyName
deriving DecidableEq

def AssignError.message? : AssignError → Option Text
  | nullByte => some "embedded null byte"
  | illegalName => some "illegal environment variable name"
  | unencodable _ | emptyName => none

def assign (env : Environment) (name value : Text) : Except AssignError Environment :=
  match name.systemForm?, value.systemForm? with
  | none, _ => .error (.unencodable ⟨name⟩)
  | _, none => .error (.unencodable ⟨value⟩)
  | some name, some value =>
    if name.toList.contains '\x00' ∨ value.toList.contains '\x00' then .error .nullByte
    else if name.toList.contains '=' then .error .illegalName
    else if name = "" then .error .emptyName
    else .ok (env.put name value)

end Environment

end XmlSettings
