import XmlSettings.Settings.OfElement
import XmlSettings.Text.Word
import XmlSettings.Value.Number
import XmlSettings.Xml.Character
import XmlSettings.Xml.Writer

/-! # Elements for settings

The way back: a table becomes an element with attributes for the keys that start with a hyphen, a
text for the key `#text`, and a child for each other key, or several for a list.  Other values are
written as text, and `nothing` leaves an element empty.

Names and texts are checked on the way, in the order in which they are met.
-/

namespace XmlSettings.Settings

open XmlSettings.Text (isDigit isWord quoted)
open XmlSettings.Xml (Element isForbidden)

inductive WriteError where
  | invalidName (name : Text)
  | forbiddenText (text : Text)
  | unwritable (e : NumberError)

def WriteError.message : WriteError → Text
  | invalidName name => quoted name ++ " is not a valid XML name"
  | forbiddenText text => quoted text ++ " contains characters not allowed in XML"
  | unwritable e => e.message?.getD ""

/-- Whether a key may be the name of an element or an attribute: a letter or underscore first, then
    letters, numbers, underscores, dots and hyphens. -/
def isName (name : Text) : Bool :=
  match name.chars with
  | [] => false
  | first :: rest =>
    isWord first && !isDigit first && rest.all fun c => isWord c || c == '.' || c == '-'

def checkName (name : Text) : Except WriteError String :=
  if isName name then .ok (String.ofList name.chars) else .error (.invalidName name)

/-- Whether a code point is refused in texts.  Surrogates are not, although no document may hold them
    either. -/
def isRefused : Rune → Bool
  | .char c => isForbidden c
  | .surrogate _ => false

def checkText (value : Value) : Except WriteError Text :=
  match value.written with
  | .error e => .error (.unwritable e)
  | .ok text => if text.toList.any isRefused then .error (.forbiddenText text) else .ok text

structure Parts where
  attributes : Entries String Text
  text : Text
  children : List (Element Text)

def Parts.empty : Parts := ⟨[], "", []⟩

def Parts.element (parts : Parts) (name : String) : Element Text :=
  ⟨name, parts.attributes, parts.text, parts.children.map fun child => (child, "")⟩

def isAttributeKey (key : Text) : Bool :=
  key.toList.head? == some (.char '-')

def attributeName (key : Text) : Text :=
  Text.ofList (key.toList.drop 1)

mutual

def parts : Value → Except WriteError Parts
  | .table entries => addEntries Parts.empty entries
  | .nothing => .ok Parts.empty
  | value => do
    let text ← checkText value
    .ok { Parts.empty with text := text }
termination_by structural value => value

def addEntries (sofar : Parts) : List (Text × Value) → Except WriteError Parts
  | [] => .ok sofar
  | (key, value) :: rest => do
    let sofar ←
      if key = textKey then do
        let text ← checkText value
        .ok { sofar with text := text }
      else if isAttributeKey key then do
        let name ← checkName (attributeName key)
        let text ← checkText value
        .ok { sofar with attributes := sofar.attributes.put name text }
      else
        match value with
        | .list items => do
          let children ← elements key items
          .ok { sofar with children := sofar.children ++ children }
        | value => do
          let name ← checkName key
          let inner ← parts value
          .ok { sofar with children := sofar.children ++ [inner.element name] }
    addEntries sofar rest
termination_by structural entries => entries

def elements (key : Text) : List Value → Except WriteError (List (Element Text))
  | [] => .ok []
  | item :: rest => do
    let name ← checkName key
    let inner ← parts item
    let more ← elements key rest
    .ok (inner.element name :: more)
termination_by structural items => items

end

def toElement (name : Text) (value : Value) : Except WriteError (Element Text) := do
  let name ← checkName name
  let parts ← parts value
  .ok (parts.element name)

/-- Children are indented by four spaces unless asked otherwise. -/
def defaultStep : Text := "    "

def toDocument (root step : Text) (value : Value) : Except WriteError String := do
  let element ← toElement root value
  .ok (Xml.Writer.document step element)

end XmlSettings.Settings
