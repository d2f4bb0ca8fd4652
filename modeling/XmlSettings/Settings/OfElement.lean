import XmlSettings.Text.Blank
import XmlSettings.Value.Basic
import XmlSettings.Xml.Element

/-! # Settings of an element

An element without children and attributes is a text, without the blanks around it.  Any other
element is a table: attributes come first, each under its name with a hyphen in front, then the
children by name, and last the text under a key of its own unless it is blank.  Children of one name
become a list.  Text behind a child belongs to no setting.
-/

namespace XmlSettings.Settings

open XmlSettings.Xml (Element)
open XmlSettings.Text (strip)

def attributeMark : Text := "-"

def textKey : Text := "#text"

/-- Add the value of a child.  A second child of a name makes a list of the two, and further ones go
    on it. -/
def addChild (entries : Entries Text Value) (name : Text) (value : Value) : Entries Text Value :=
  match entries.get? name with
  | none => entries.put name value
  | some (.list items) => entries.put name (.list (items ++ [value]))
  | some first => entries.put name (.list [first, value])

def ofAttributes (attributes : List (String × String)) : Entries Text Value :=
  Entries.ofPairs (attributes.map fun (name, value) => (attributeMark ++ name, .text value))

/-- Add the text of an element unless it is blank. -/
def addText (entries : Entries Text Value) (text : Text) : Entries Text Value :=
  if text = "" then entries else entries.put textKey (.text text)

mutual

def ofElement : Element String → Value
  | .mk _ attributes text children =>
    if children.isEmpty ∧ attributes.isEmpty then .text (strip text)
    else .table (addText (ofChildren (ofAttributes attributes) children) (strip text))
termination_by structural e => e

/-- Add the values of children to entries.  The texts behind them are left out. -/
def ofChildren (entries : Entries Text Value) : List (Element String × String) → Entries Text Value
  | [] => entries
  | (child, _) :: rest => ofChildren (addChild entries child.name (ofElement child)) rest
termination_by structural children => children

end

def ofRoot (root : Element String) : Value :=
  .table [(root.name, ofElement root)]

end XmlSettings.Settings
