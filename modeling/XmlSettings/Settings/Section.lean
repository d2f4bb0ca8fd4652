import XmlSettings.Text.Pieces
import XmlSettings.Value.Compact
import XmlSettings.Value.Flag
import XmlSettings.Value.Number

/-! # Reading a section

Typed reads of the entries of a section.  The strict reads give a value or say why there is none;
`AccessError.orDefault` puts a default in place of a value that is missing or does not fit.  A text with more
digits than an integer may have is no fault of that kind, and no default stands in for it.
-/

namespace XmlSettings

open XmlSettings.Decimal (Binary64 isPlainInteger isPlainReal)
open XmlSettings.Text (quoted pieces)

abbrev Section := Entries Text Value

inductive AccessError where
  | missing (key : Text)
  /-- There is no entry with a key, where any value would do. -/
  | missingValue
  | missingSection (key : Text)
  /-- An entry that is missing or no section, where its entries are wanted. -/
  | noEntries (key : Text)
  | notASection (key : Text)
  | notAText (key kind : Text)
  | malformed (value : Value)
  /-- An integer needs more than 64 bits. -/
  | outOfRange (value : Value)
  | unreadable (e : NumberError)

namespace AccessError

def message? : AccessError → Option Text
  | missing key => some ("not exist key: " ++ quoted key)
  | missingValue => some "not exist key"
  | missingSection key => some ("the key is not found: " ++ key)
  | noEntries key => some ("section '" ++ key ++ "' not found")
  | notASection key => some ("the value of this key is not a structure: " ++ key)
  | notAText key kind => some ("the value of key " ++ quoted key ++ " is not a scalar: " ++ kind)
  | malformed value => some ("parsing " ++ value.inMessage ++ ": invalid syntax")
  | outOfRange value => some ("parsing " ++ value.inMessage ++ ": value out of range")
  | unreadable e => e.message?

def allowsDefault : AccessError → Bool
  | unreadable _ => false
  | _ => true

/-- Put a default in place of a value that is missing or does not fit. -/
def orDefault {α : Type} (read : Except AccessError α) (default : α) : Except AccessError α :=
  match read with
  | .ok value => .ok value
  | .error e => if e.allowsDefault then .ok default else .error e

end AccessError

namespace Section

def value (entries : Section) (key : Text) : Except AccessError Value :=
  match entries.get? key with
  | some value => .ok value
  | none => .error .missingValue

def scalar (entries : Section) (key : Text) : Except AccessError Text :=
  match entries.get? key with
  | none => .error (.missing key)
  | some (.text s) => .ok s
  | some value => .error (.notAText key value.kindName)

/-- The truth value of an entry.  An entry without a value counts as missing. -/
def flag (entries : Section) (key : Text) : Except AccessError Bool :=
  match entries.get? key with
  | none | some .nothing => .error (.missing key)
  | some value =>
    match value.flag? with
    | some b => .ok b
    | none => .error (if value.isShowable then .malformed value else .unreadable .unwritable)

/-- The integer of an entry: an optional sign and decimal digits. -/
def integer (entries : Section) (key : Text) : Except AccessError Int := do
  let s ← entries.scalar key
  if isPlainInteger s then (integerOfText s).mapError .unreadable
  else .error (.malformed (.text s))

def least64 : Int := -0x8000000000000000

def greatest64 : Int := 0x7FFFFFFFFFFFFFFF

def integer64 (entries : Section) (key : Text) : Except AccessError Int := do
  let n ← entries.integer key
  if least64 ≤ n ∧ n ≤ greatest64 then .ok n
  else .error (.outOfRange ((entries.get? key).getD .nothing))

def real (entries : Section) (key : Text) : Except AccessError Binary64 := do
  let s ← entries.scalar key
  if isPlainReal s then (realOfText s).mapError .unreadable
  else .error (.malformed (.text s))

/-- The text of an entry; empty for an entry that is missing or no text. -/
def text (entries : Section) (key : Text) : Text :=
  match entries.get? key with
  | some (.text s) => s
  | _ => ""

def textOr (entries : Section) (key : Text) (default : Value) : Value :=
  let s := entries.text key
  if s = "" then default else .text s

/-- Stands between the texts of a list in one text. -/
def separator : Rune := .char ';'

/-- The texts of an entry between semicolons; none if the entry has no text. -/
def texts? (entries : Section) (key : Text) : Option (List Text) :=
  let s := entries.text key
  if s = "" then none else some (pieces separator s)

def textsOr (entries : Section) (key : Text) (default : Value) : Value :=
  match entries.texts? key with
  | some texts => .list (texts.map .text)
  | none => default

def renderedEntries (entries : Section) (key : Text) : Except AccessError (Entries Text Text) :=
  match entries.get? key with
  | some (.table inner) =>
    if Value.holdsShowable inner then .ok (inner.map fun (name, value) => (name, value.rendered))
    else .error (.unreadable .unwritable)
  | _ => .error (.noEntries key)

/-- A section as messages show it: by its keys. -/
def shown (entries : Section) : Text :=
  "XMLConfigContainer(keys=" ++ (Value.list (entries.keys.map .text)).inMessage ++ ")"

end Section

end XmlSettings
