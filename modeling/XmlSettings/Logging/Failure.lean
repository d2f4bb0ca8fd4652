import XmlSettings.Logging.Setup

/-! # Classes of errors

Errors are told apart by their classes.  A set-up of logging may fail with each of these.
-/

namespace XmlSettings

inductive ErrorClass where
  | wrongType
  | wrongValue
  | overflow
  /-- A value is used as something that it is not. -/
  | noAttribute
  | fileNotFound
  | notADirectory
  | isADirectory
  | fileExists
  | unencodable
  | system
deriving DecidableEq

def NumberError.errorClass : NumberError → ErrorClass
  | notAnInteger _ | tooManyDigits _ | notAReal _ | nanAsInteger | unwritable => .wrongValue
  | infiniteAsInteger | beyondReals => .overflow
  | notNumeric => .wrongType

def FileTree.Fault.errorClass : FileTree.Fault → ErrorClass
  | notFound => .fileNotFound
  | notADirectory => .notADirectory
  | isADirectory => .isADirectory
  | alreadyExists => .fileExists
  | unwantedLink | nameTooLong => .system
  | unencodable => .unencodable
  | nullByte | nullCharacter _ => .wrongValue

def Logging.SetupError.errorClass : Logging.SetupError → ErrorClass
  | noSection => .noAttribute
  | notANumber e => e.errorClass
  | noPath => .wrongType
  | unusableFile fault => fault.errorClass

end XmlSettings
