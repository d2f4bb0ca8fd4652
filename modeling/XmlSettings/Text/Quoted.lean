import XmlSettings.Text.Basic
import XmlSettings.Text.Hex
import XmlSettings.Text.Printable

/-! # Quoted text

Messages show a text between quotes.  The quotes are single unless the text holds a single quote
and no double one.  The quote in use and the backslash are escaped by a backslash, line feed,
carriage return and tab by a letter, and any other character that is not printable by its code
point.
-/

namespace XmlSettings.Text

def quoteFor (cs : List Rune) : Char :=
  if cs.contains '\x27' && !cs.contains '"' then '"' else '\x27'

/-- The escape of a character by its code point: two, four or eight hexadecimal digits. -/
def numericEscape (n : Nat) : List Char :=
  if n < 0x100 then '\\' :: 'x' :: hexDigits 2 n
  else if n < 0x10000 then '\\' :: 'u' :: hexDigits 4 n
  else '\\' :: 'U' :: hexDigits 8 n

def escapeChar (quote c : Char) : List Char :=
  if c = quote ∨ c = '\\' then ['\\', c]
  else if c = '\n' then ['\\', 'n']
  else if c = '\r' then ['\\', 'r']
  else if c = '\t' then ['\\', 't']
  else if isPrintable c then [c]
  else numericEscape c.toNat

def escapeRune (quote : Char) : Rune → List Char
  | .char c => escapeChar quote c
  | .surrogate n => numericEscape (Rune.surrogate n).toNat

def quoted (t : Text) : String :=
  let quote := quoteFor t.toList
  String.ofList (quote :: t.toList.flatMap (escapeRune quote) ++ [quote])

end XmlSettings.Text
