import XmlSettings.Entries
import XmlSettings.Xml.Tag

/-! # Document type declarations

What a document declares about itself in front of its root element: entities, which references in
the document stand for, and attributes, which elements have without writing them.
-/

namespace XmlSettings.Xml

inductive Entity where
  | internal (text : List Char)
  | external
  /-- Something elsewhere that is no text. -/
  | binary

structure AttributeRule where
  element : String
  name : QualifiedName
  /-- Whether values are names or lists of names, in which the amount of blanks carries nothing. -/
  isTokenized : Bool
  /-- The value for elements that do not write the attribute. -/
  default? : Option (List Char)

structure Doctype where
  /-- Entities, each under the first declaration of its name. -/
  entities : Entries String Entity
  /-- Attributes, the first declaration of each in front. -/
  attributes : List AttributeRule
  /-- Whether there are declarations elsewhere, which are not read. -/
  isPartial : Bool
  /-- Whether the document says that it needs no declarations from elsewhere. -/
  isStandalone : Bool

namespace Doctype

def empty : Doctype := ⟨[], [], false, false⟩

/-- Whether every entity that is referred to has to be declared in the document itself. -/
def isComplete (doctype : Doctype) : Bool :=
  !doctype.isPartial || doctype.isStandalone

def predefined? (entity : String) : Option Char :=
  if entity = "lt" then some '<'
  else if entity = "gt" then some '>'
  else if entity = "amp" then some '&'
  else if entity = "quot" then some '"'
  else if entity = "apos" then some '\x27'
  else none

def rule? (doctype : Doctype) (element : String) (name : QualifiedName) : Option AttributeRule :=
  doctype.attributes.find? fun rule => rule.element == element && rule.name == name

/-- Declare an entity; a name that is declared already, or needs no declaration, keeps its
    meaning. -/
def declareEntity (doctype : Doctype) (name : String) (entity : Entity) : Doctype :=
  if (predefined? name).isSome || doctype.entities.hasKey name then doctype
  else { doctype with entities := doctype.entities ++ [(name, entity)] }

/-- Declare an attribute; one that is declared already keeps its declaration. -/
def declareAttribute (doctype : Doctype) (rule : AttributeRule) : Doctype :=
  if (doctype.rule? rule.element rule.name).isSome then doctype
  else { doctype with attributes := doctype.attributes ++ [rule] }

end Doctype

end XmlSettings.Xml
