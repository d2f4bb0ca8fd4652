import XmlSettings.FileTree.Basic
import XmlSettings.Logging.Record

/-! # Loggers and their handlers

Records of the library go to the handlers of its logger, and from there, if the logger is set so, to
the root.  The logger refuses records below its level, and each handler those below its own; nothing
is refused at the root.  A handler is either owned, set up by the library, or foreign, added by the
program around it.
-/

namespace XmlSettings.Logging

structure LogFile where
  place : FileTree.Place
  path : Text
  maxBytes : Int
  backups : Int

inductive Sink where
  | console
  | file (log : LogFile)
  /-- To a list of records. -/
  | observer

structure Handler where
  level : Level
  isOwned : Bool
  format : Format
  sink : Sink

structure Logger where
  level : Level
  propagates : Bool
  handlers : List Handler

def rootLevel : Level := .warning

def Logger.effectiveLevel (logger : Logger) : Level :=
  if logger.level = .unset then rootLevel else logger.level

def Logger.accepts (logger : Logger) (level : Level) : Bool :=
  level ≠ .unset && logger.effectiveLevel.number ≤ level.number

structure Journal where
  logger : Logger
  /-- The lines on the console. -/
  console : Text
  observed : List Record
  root : List Record

namespace Journal

def write (state : Journal × FileTree) (handler : Handler) (record : Record) : Journal × FileTree :=
  if record.level.number < handler.level.number then state
  else
    let (journal, files) := state
    match handler.sink with
    | .console => ({ journal with console := journal.console ++ record.line handler.format }, files)
    | .file log => (journal, files.extend log.place (record.line handler.format))
    | .observer => ({ journal with observed := journal.observed ++ [record] }, files)

def propagate (journal : Journal) (record : Record) : Journal :=
  { journal with root := journal.root ++ [record] }

def log (journal : Journal) (files : FileTree) (record : Record) : Journal × FileTree :=
  if isOwnName record.logger then
    if journal.logger.accepts record.level then
      let (journal, files) :=
        journal.logger.handlers.foldl (fun state handler => write state handler record) (journal, files)
      (if journal.logger.propagates then journal.propagate record else journal, files)
    else (journal, files)
  else if rootLevel.number ≤ record.level.number then (journal.propagate record, files)
  else (journal, files)

def logAll (journal : Journal) (files : FileTree) (records : List Record) : Journal × FileTree :=
  records.foldl (fun (journal, files) record => journal.log files record) (journal, files)

end Journal

end XmlSettings.Logging
