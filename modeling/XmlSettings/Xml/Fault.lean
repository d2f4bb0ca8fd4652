import XmlSettings.Xml.Character

/-! # Faults and their places

A document is refused for the first fault in it.  Readers give the fault together with the input
that was left where it is; `Failure.locate` turns that into a line and a column.

A reader of a single token does not know what became of the token's start.  It stops with a `Halt`,
and `Halt.failure` says which fault that is for a token that starts at a given place.
-/

namespace XmlSettings.Xml

inductive Fault where
  | noElement
  | unclosedToken
  | partialCharacter
  | invalidToken
  | invalidSyntax
  | unclosedSection
  | mismatchedTag
  | junkAfterRoot
  | duplicateAttribute
  | undefinedEntity
  /-- An entity that may be declared where the reader does not look. -/
  | unresolvedEntity (reference : String)
  | recursiveEntity
  | asynchronousEntity
  | binaryEntity
  | externalEntityInAttribute
  | invalidCharacterNumber
  | parameterReference
  | invalidPublicId
  | misplacedDeclaration
  | malformedDeclaration
  | conflictingEncoding
  | unknownEncoding
  | unboundPrefix
  | undeclaredPrefix
  | reservedXmlPrefix
  | reservedXmlnsPrefix
  | reservedNamespace
deriving DecidableEq

def Fault.reason : Fault → String
  | noElement => "no element found"
  | unclosedToken => "unclosed token"
  | partialCharacter => "partial character"
  | invalidToken => "not well-formed (invalid token)"
  | invalidSyntax => "syntax error"
  | unclosedSection => "unclosed CDATA section"
  | mismatchedTag => "mismatched tag"
  | junkAfterRoot => "junk after document element"
  | duplicateAttribute => "duplicate attribute"
  | undefinedEntity => "undefined entity"
  | unresolvedEntity reference => "undefined entity " ++ reference
  | recursiveEntity => "recursive entity reference"
  | asynchronousEntity => "asynchronous entity"
  | binaryEntity => "reference to binary entity"
  | externalEntityInAttribute => "reference to external entity in attribute"
  | invalidCharacterNumber => "reference to invalid character number"
  | parameterReference => "illegal parameter entity reference"
  | invalidPublicId => "illegal character(s) in public id"
  | misplacedDeclaration => "XML or text declaration not at start of entity"
  | malformedDeclaration => "XML declaration not well-formed"
  | conflictingEncoding => "encoding specified in XML declaration is incorrect"
  | unknownEncoding => "unknown encoding"
  | unboundPrefix => "unbound prefix"
  | undeclaredPrefix => "must not undeclare prefix"
  | reservedXmlPrefix => "reserved prefix (xml) must not be undeclared or bound to another namespace name"
  | reservedXmlnsPrefix => "reserved prefix (xmlns) must not be declared or undeclared"
  | reservedNamespace => "prefix must not be bound to one of the reserved namespace names"

/-- A place in a document: lines count from one, columns from zero. -/
structure Place where
  line : Nat
  column : Nat
deriving DecidableEq

def Place.start : Place := ⟨1, 0⟩

/-- The place behind some text.  A carriage return, a line feed, and the two of them together end a
    line. -/
def Place.after (place : Place) : List Char → Place
  | [] => place
  | '\r' :: '\n' :: rest => Place.after ⟨place.line + 1, 0⟩ rest
  | c :: rest =>
    if c = '\n' ∨ c = '\r' then Place.after ⟨place.line + 1, 0⟩ rest
    else Place.after ⟨place.line, place.column + 1⟩ rest

/-- A fault, and the input from its place on. -/
structure Failure where
  fault : Fault
  rest : List Char

structure Refusal where
  fault : Fault
  place : Place

def Failure.locate (document : List Char) (failure : Failure) : Refusal :=
  ⟨failure.fault, Place.start.after (document.take (document.length - failure.rest.length))⟩

def Refusal.message (refusal : Refusal) : String :=
  refusal.fault.reason ++ ": line " ++ toString refusal.place.line ++ ", column " ++
    toString refusal.place.column

inductive Halt where
  | ended
  /-- The input ends inside a character. -/
  | cutOff
  | unexpected (rest : List Char)

def Halt.before : List Char → Halt
  | [] => ended
  | c :: rest =>
    if c = Xml.cutOff then cutOff else if c = halfUnit then ended else unexpected (c :: rest)

/-- The failure of a token that stops short: missing input is blamed on the token's start, a
    character on its own place. -/
def Halt.failure (token : List Char) : Halt → Failure
  | ended => ⟨.unclosedToken, token⟩
  | cutOff => ⟨.partialCharacter, token⟩
  | unexpected rest => ⟨.invalidToken, rest⟩

end XmlSettings.Xml
