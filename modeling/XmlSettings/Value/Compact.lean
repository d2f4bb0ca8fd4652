import XmlSettings.Decimal.Style
import XmlSettings.Text.Hex
import XmlSettings.Value.Message

/-! # Compact documents

Composite values are rendered as compact JSON: no blanks, texts between double quotes with quote,
backslash and the control characters below U+0020 escaped, everything else as it is.
`Value.rendered` renders a value of any kind: texts stand for themselves and `nothing` is empty.
-/

namespace XmlSettings.Value

open XmlSettings.Decimal (integerText documentStyle)
open XmlSettings.Text (hexDigits)

def compactRune (c : Rune) : List Rune :=
  if c = '"' ∨ c = '\\' then ['\\', c]
  else if c = '\n' then ['\\', 'n']
  else if c = '\r' then ['\\', 'r']
  else if c = '\t' then ['\\', 't']
  else if c.toNat = 0x08 then ['\\', 'b']
  else if c.toNat = 0x0C then ['\\', 'f']
  else if c.toNat < 0x20 then '\\' :: 'u' :: (hexDigits 4 c.toNat).map .char
  else [c]

def compactText (t : Text) : List Rune :=
  Rune.char '"' :: t.toList.flatMap compactRune ++ [Rune.char '"']

mutual

/-- A value as a compact document.  A record is written like the table of its fields. -/
def compact : Value → List Rune
  | text s => compactText s
  | flag b => if b then ['t', 'r', 'u', 'e'] else ['f', 'a', 'l', 's', 'e']
  | nothing => ['n', 'u', 'l', 'l']
  | integer n => (integerText n).map .char
  | real x => (Text.ofString (documentStyle.write x)).toList
  | list items => Rune.char '[' :: compactItems items ++ [Rune.char ']']
  | table entries => Rune.char '\x7b' :: compactEntries entries ++ [Rune.char '\x7d']
  | record _ fields => Rune.char '\x7b' :: compactEntries fields ++ [Rune.char '\x7d']
termination_by structural v => v

def compactItems : List Value → List Rune
  | [] => []
  | item :: rest => compact item ++ compactMoreItems rest
termination_by structural items => items

def compactMoreItems : List Value → List Rune
  | [] => []
  | item :: rest => Rune.char ',' :: compact item ++ compactMoreItems rest
termination_by structural items => items

def compactEntries : List (Text × Value) → List Rune
  | [] => []
  | (key, value) :: rest => compactText key ++ Rune.char ':' :: compact value ++ compactMoreEntries rest
termination_by structural entries => entries

def compactMoreEntries : List (Text × Value) → List Rune
  | [] => []
  | (key, value) :: rest =>
    Rune.char ',' :: compactText key ++ Rune.char ':' :: compact value ++ compactMoreEntries rest
termination_by structural entries => entries

end

def rendered : Value → Text
  | text s => s
  | nothing => ""
  | flag b => if b then "true" else "false"
  | value@(list _) => Text.ofList value.compact
  | value@(table _) => Text.ofList value.compact
  | value => value.inMessage

end XmlSettings.Value
