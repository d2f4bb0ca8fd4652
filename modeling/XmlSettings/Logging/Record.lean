import XmlSettings.Entries
import XmlSettings.Text.Pieces

/-! # Log records

A record is a message of some level under the name of a logger.  The names of this library's loggers
are its own name and the names below it, with dots between their parts.
-/

namespace XmlSettings.Logging

/-- How much a message matters; `unset` stands where no level is chosen. -/
inductive Level where
  | unset | debug | info | warning | error | critical
deriving DecidableEq, Inhabited

namespace Level

def number : Level → Nat
  | unset => 0
  | debug => 10
  | info => 20
  | warning => 30
  | error => 40
  | critical => 50

def name : Level → Text
  | unset => "NOTSET"
  | debug => "DEBUG"
  | info => "INFO"
  | warning => "WARNING"
  | error => "ERROR"
  | critical => "CRITICAL"

/-- The level with a name in capitals.  Two levels have a second name. -/
def ofName? : String → Option Level
  | "NOTSET" => some unset
  | "DEBUG" => some debug
  | "INFO" => some info
  | "WARNING" => some warning
  | "WARN" => some warning
  | "ERROR" => some error
  | "CRITICAL" => some critical
  | "FATAL" => some critical
  | _ => none

end Level

structure Record where
  level : Level
  logger : Text
  message : Text
deriving DecidableEq

/-! ## Formats -/

structure Format where
  /-- A line, where `%(message)s` stands for the field `message` of a record. -/
  line : Text
  time : Text
deriving DecidableEq

def Format.plain : Format := ⟨"%(message)s", "%Y-%m-%d %H:%M:%S"⟩

def Format.standard : Format :=
  ⟨"%(asctime)s - %(name)s - %(levelname)s - %(message)s", "%Y-%m-%d %H:%M:%S"⟩

def timeMark : Text := "<time>"

namespace Record

def fields (record : Record) : Entries Text Text :=
  [("asctime", timeMark), ("name", record.logger), ("levelname", record.level.name),
    ("message", record.message)]

/-- What a part of a format behind a percent sign stands for: a field with the text behind it. -/
def fill (record : Record) (part : List Rune) : List Rune :=
  let name := (part.drop 1).takeWhile (· != .char ')')
  let field := (record.fields.get? (.ofList name)).getD ""
  field.toList ++ part.drop (name.length + 3)

def line (record : Record) (format : Format) : Text :=
  match Text.cutAt (.char '%') format.line.toList with
  | [] => "\n"
  | first :: parts => Text.ofList (first ++ parts.flatMap record.fill) ++ "\n"

end Record

/-! ## Names of loggers -/

def topName : Text := "xmlconf"

def isOwnName (name : Text) : Bool :=
  name == topName || name.toList.take (topName.toList.length + 1) == (topName ++ ".").toList

/-- The name of a logger of the library: a name that is one already, or the name below the topmost. -/
def loggerName (name : Text) : Text :=
  if isOwnName name then name else topName ++ "." ++ name

def loaderName : Text := topName ++ ".config.xml_config"

def decoderName : Text := topName ++ ".config.decode"

def registryName : Text := topName ++ ".config.registry"

def dotenvName : Text := "dotenv.main"

end XmlSettings.Logging
