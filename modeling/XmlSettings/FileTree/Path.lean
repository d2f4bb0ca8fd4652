import XmlSettings.Text.Pieces

/-! # Paths

A path is a text with slashes between names.  It may be written in several ways: with doubled
slashes, with names `.` for the directory itself, and with names `..` for the one above.  `tidy`
keeps the names above and drops the rest; `normal` also cancels a name against a `..` behind it, as
if no name were a link.
-/

namespace XmlSettings.Path

open XmlSettings.Text (pieces)

/-- The names of a path, with empty ones for doubled and trailing slashes. -/
def names (path : Text) : List Text :=
  pieces '/' path

def isAbsolute (path : Text) : Bool :=
  path.toList.head? == some '/'

/-- The slashes that an absolute path starts with: one, unless there are exactly two. -/
def root (path : Text) : Text :=
  match path.toList with
  | '/' :: '/' :: '/' :: _ => "/"
  | '/' :: '/' :: _ => "//"
  | '/' :: _ => "/"
  | _ => ""

def ofNames (names : List Text) : Text :=
  if names.isEmpty then "." else Text.intercalate "/" names

def tidyNames (names : List Text) : List Text :=
  names.filter fun name => name ≠ "" ∧ name ≠ "."

/-- A path without doubled slashes, trailing slashes and names `.`. -/
def tidy (path : Text) : Text :=
  let names := tidyNames (names path)
  if isAbsolute path then root path ++ Text.intercalate "/" names else ofNames names

/-- Cancel names against a `..` behind them.  The names before are given last one first. -/
def cancel (before : List Text) : List Text → List Text
  | [] => before.reverse
  | name :: rest => if name = ".." then cancel before.tail rest else cancel (name :: before) rest

/-- The names of a path with every `..` carried out, from a place where other names lead, which are
    given last one first. -/
def normalNames (place : List Text) (path : Text) : List Text :=
  cancel place (tidyNames (names path))

/-- The names of the directory part of a path: all but what follows the last slash. -/
def parentNames (path : Text) : List Text :=
  (names path).dropLast.filter (· ≠ "")

end XmlSettings.Path
