import XmlSettings.Environment
import XmlSettings.FileTree.Basic
import XmlSettings.Logging.Record

/-! # Loaders of dotenv files

Dotenv files are loaded by another package.  A `Loader` is what that package does with the file at a
path.
-/

namespace XmlSettings.Dotenv

open XmlSettings.Environment (AssignError)
open XmlSettings.Logging (Record)

/-- Names with their values, as far as they have one. -/
abbrev Variables := Entries String (Option Text)

inductive Failure where
  | noPath (fault : FileTree.Fault)
  /-- The file is not UTF-8. -/
  | undecodable
  | unassignable (e : AssignError)

def Failure.message? : Failure → Option Text
  | noPath fault => fault.message?
  | undecodable => none
  | unassignable e => e.message?

structure Outcome where
  environment : Environment
  records : List Record
  result : Except Failure Unit

abbrev Loader := Environment → FileTree → Text → Outcome

end XmlSettings.Dotenv
