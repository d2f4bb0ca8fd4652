import XmlSettings.Xml.AttributeValue
import XmlSettings.Xml.Doctype.Mark

/-! # The grammar of declarations

Which mark may follow which in front of the root element, and what the declarations say.  `Expecting`
is what has been read of a declaration, and `State.step` takes one more mark.  Blanks stand between
any two marks and are left out beforehand.
-/

namespace XmlSettings.Xml.Doctype

structure AttributeHead where
  element : String
  name : QualifiedName

inductive Expecting where
  /-- The root element, or the document type declaration unless there was one. -/
  | root (declared : Bool)
  | doctypeName
  /-- Identifiers, declarations, or the end of the document type declaration. -/
  | identifiers
  | publicId
  | systemId
  | subset
  | doctypeEnd
  | declaration
  | declarationEnd
  | entityName
  | parameterName
  /-- The value of an entity, or where it is.  Parameter entities are given no name here. -/
  | entityValue (name? : Option String)
  | entityPublicId (name? : Option String)
  | entitySystemId (name? : Option String)
  | entityEnd (name? : Option String)
  | entityFormat (name : String)
  | formatName
  | formatIdentifiers
  | formatPublicId
  | formatSystemId
  | formatEnd
  | attributeElement
  | attributeName (element : String)
  | attributeType (head : AttributeHead)
  | choice (head : AttributeHead)
  | choiceEnd (head : AttributeHead)
  | formats (head : AttributeHead)
  | formatChoice (head : AttributeHead)
  | formatChoiceEnd (head : AttributeHead)
  | attributeDefault (head : AttributeHead) (isTokenized : Bool)
  | fixedValue (head : AttributeHead) (isTokenized : Bool)
  | modelElement
  | model
  | modelStart
  | mixedEnd
  | mixedName
  | mixedMore
  /-- A part of a content model inside groups, each with the connector it uses so far. -/
  | part (groups : List (Option Char))
  | connector (groups : List (Option Char))

structure State where
  doctype : Doctype
  /-- Whether declarations still count.  Behind a reference to declarations elsewhere they do only in
      a document that says it needs none of those. -/
  isReading : Bool
  expecting : Expecting

/-! ## Values in declarations -/

/-- The text of an entity: character references are replaced, references to entities are kept for
    later, and line ends are made alike. -/
def entityText [Naming] (s : List Char) : Except ValueFault (List Char) :=
  match s with
  | [] => .ok []
  | c :: rest =>
    if c = '&' then
      match taken : Scan.reference rest with
      | .error (.unexpected place) => .error ⟨.invalidToken, some place⟩
      | .error _ => .error ⟨.invalidToken, some s⟩
      | .ok (target, behind) =>
        have : behind.length < rest.length + 1 :=
          Nat.lt_succ_of_le (Scan.reference_suffix taken).length_le
        match target with
        | .character none => .error ⟨.invalidCharacterNumber, some s⟩
        | .character (some d) => do
          let more ← entityText behind
          .ok (d :: more)
        | .entity name => do
          let more ← entityText behind
          .ok ('&' :: name.toList ++ ';' :: more)
    else if c = '%' then
      match Mark.percentOrParameter rest with
      | .ok (.parameter, _) => .error ⟨.parameterReference, some s⟩
      | .ok _ => .error ⟨.invalidToken, some rest⟩
      | .error (.unexpected place) => .error ⟨.invalidToken, some place⟩
      | .error _ => .error ⟨.invalidToken, some s⟩
    else if c = '\r' then do
      let more ← entityText (if rest.head? = some '\n' then rest.tail else rest)
      .ok ('\n' :: more)
    else do
      let more ← entityText rest
      .ok (c :: more)
termination_by s.length
decreasing_by
  · exact this
  · exact this
  · simp only [List.length_cons]
    split
    · rw [List.length_tail]
      omega
    · omega
  · exact Nat.lt_succ_self rest.length

def isPublicIdChar (c : Char) : Bool :=
  c.isAlphanum || " \r\n-'()+,./:=?;!*#@$_%".toList.contains c

def checkPublicId (text behind : List Char) : Except Failure Unit :=
  match text.dropWhile isPublicIdChar with
  | [] => .ok ()
  | rest => .error ⟨.invalidPublicId, rest ++ behind⟩

def qualified (text : String) : QualifiedName :=
  match text.toList.dropWhile (· != ':') with
  | _ :: localName => ⟨some (String.ofList (text.toList.takeWhile (· != ':'))), String.ofList localName⟩
  | [] => ⟨none, text⟩

def isSimple (text : String) : Bool :=
  !text.toList.contains ':'

/-- Whether the values of an attribute type are tokens, for the types that are given by a word. -/
def isTokenizedType? (type : String) : Option Bool :=
  if type = "CDATA" then some false
  else if ["ID", "IDREF", "IDREFS", "ENTITY", "ENTITIES", "NMTOKEN", "NMTOKENS"].contains type then
    some true
  else none

/-! ## One mark -/

namespace State

def misplaced (mark : Mark) : Fault :=
  match mark with
  | .parameter => .parameterReference
  | .documentDeclaration => .misplacedDeclaration
  | _ => .invalidSyntax

def expect (state : State) (expecting : Expecting) : Except Failure State :=
  .ok { state with expecting := expecting }

def notePartial (state : State) : State :=
  { state with doctype := { state.doctype with isPartial := true } }

/-- Declare an entity, if declarations count and it has a name. -/
def declareEntity (state : State) (name? : Option String) (entity : Entity) : State :=
  match name? with
  | some name =>
    if state.isReading then { state with doctype := state.doctype.declareEntity name entity } else state
  | none => state

/-- Declare an attribute, if declarations count, and expect the next one of its element. -/
def declareAttribute (state : State) (head : AttributeHead) (isTokenized : Bool)
    (default? : Option (List Char)) : State :=
  let expecting := Expecting.attributeName head.element
  if state.isReading then
    { state with
      doctype := state.doctype.declareAttribute ⟨head.element, head.name, isTokenized, default?⟩
      expecting := expecting }
  else { state with expecting := expecting }

def declareDefault [Naming] (state : State) (start : List Char) (head : AttributeHead) (isTokenized : Bool)
    (text behind : List Char) : Except Failure State :=
  if state.isReading then
    match AttributeValue.ofWritten state.doctype state.doctype.entities .document isTokenized text with
    | .ok value => .ok (state.declareAttribute head isTokenized (some value))
    | .error found => .error (found.failure start behind)
  else .ok (state.declareAttribute head isTokenized none)

def declareText [Naming] (state : State) (start : List Char) (name? : Option String)
    (text behind : List Char) : Except Failure State :=
  if state.isReading then
    match entityText text with
    | .ok value => (state.declareEntity name? (.internal value)).expect .declarationEnd
    | .error found => .error (found.failure start behind)
  else state.expect .declarationEnd

def closeGroup (state : State) (groups : List (Option Char)) : Except Failure State :=
  match groups.tail with
  | [] => state.expect .declarationEnd
  | outer => state.expect (.connector outer)

def step [Naming] (state : State) (start : List Char) (mark : Mark) : Except Failure State :=
  match state.expecting, mark with
  | .root _, .comment | .root _, .instruction => .ok state
  | .root false, .declaration "DOCTYPE" => state.expect .doctypeName
  | .doctypeName, .name _ => state.expect .identifiers
  | .identifiers, .name "SYSTEM" => state.expect .systemId
  | .identifiers, .name "PUBLIC" => state.expect .publicId
  | .identifiers, .subset | .subset, .subset => state.expect .declaration
  | .identifiers, .declarationEnd | .subset, .declarationEnd | .doctypeEnd, .declarationEnd =>
    state.expect (.root true)
  | .publicId, .literal text behind => do
    checkPublicId text behind
    state.notePartial.expect .systemId
  | .systemId, .literal _ _ => state.notePartial.expect .subset
  | .declaration, .comment | .declaration, .instruction => .ok state
  | .declaration, .parameter =>
    .ok { state.notePartial with isReading := state.doctype.isStandalone }
  | .declaration, .subsetEnd => state.expect .doctypeEnd
  | .declaration, .declaration "ENTITY" => state.expect .entityName
  | .declaration, .declaration "ATTLIST" => state.expect .attributeElement
  | .declaration, .declaration "ELEMENT" => state.expect .modelElement
  | .declaration, .declaration "NOTATION" => state.expect .formatName
  | .declarationEnd, .declarationEnd => state.expect .declaration
  -- entities
  | .entityName, .percent => state.expect .parameterName
  | .entityName, .name text =>
    if isSimple text then state.expect (.entityValue (some text))
    else .error ⟨misplaced mark, start⟩
  | .parameterName, .name text =>
    if isSimple text then state.expect (.entityValue none) else .error ⟨misplaced mark, start⟩
  | .entityValue name?, .literal text behind => state.declareText start name? text behind
  | .entityValue name?, .name "SYSTEM" => state.expect (.entitySystemId name?)
  | .entityValue name?, .name "PUBLIC" => state.expect (.entityPublicId name?)
  | .entityPublicId name?, .literal text behind => do
    checkPublicId text behind
    state.expect (.entitySystemId name?)
  | .entitySystemId name?, .literal _ _ => state.expect (.entityEnd name?)
  | .entityEnd name?, .declarationEnd => (state.declareEntity name? .external).expect .declaration
  | .entityEnd (some name), .name "NDATA" => state.expect (.entityFormat name)
  | .entityFormat name, .name text =>
    if isSimple text then (state.declareEntity (some name) .binary).expect .declarationEnd
    else .error ⟨misplaced mark, start⟩
  -- formats of binary entities
  | .formatName, .name text =>
    if isSimple text then state.expect .formatIdentifiers else .error ⟨misplaced mark, start⟩
  | .formatIdentifiers, .name "SYSTEM" => state.expect .formatSystemId
  | .formatIdentifiers, .name "PUBLIC" => state.expect .formatPublicId
  | .formatPublicId, .literal text behind => do
    checkPublicId text behind
    state.expect .formatEnd
  | .formatSystemId, .literal _ _ | .formatEnd, .literal _ _ => state.expect .declarationEnd
  | .formatEnd, .declarationEnd => state.expect .declaration
  -- attributes
  | .attributeElement, .name text => state.expect (.attributeName text)
  | .attributeName _, .declarationEnd => state.expect .declaration
  | .attributeName element, .name text => state.expect (.attributeType ⟨element, qualified text⟩)
  | .attributeType head, .group => state.expect (.choice head)
  | .attributeType head, .name "NOTATION" => state.expect (.formats head)
  | .attributeType head, .name text =>
    match isTokenizedType? text with
    | some isTokenized => state.expect (.attributeDefault head isTokenized)
    | none => .error ⟨misplaced mark, start⟩
  | .choice head, .name _ | .choice head, .nameToken => state.expect (.choiceEnd head)
  | .choiceEnd head, .bar => state.expect (.choice head)
  | .choiceEnd head, .groupEnd none => state.expect (.attributeDefault head true)
  | .formats head, .group => state.expect (.formatChoice head)
  | .formatChoice head, .name text =>
    if isSimple text then state.expect (.formatChoiceEnd head) else .error ⟨misplaced mark, start⟩
  | .formatChoiceEnd head, .bar => state.expect (.formatChoice head)
  | .formatChoiceEnd head, .groupEnd none => state.expect (.attributeDefault head true)
  | .attributeDefault head isTokenized, .reserved "IMPLIED"
  | .attributeDefault head isTokenized, .reserved "REQUIRED" =>
    .ok (state.declareAttribute head isTokenized none)
  | .attributeDefault head isTokenized, .reserved "FIXED" =>
    state.expect (.fixedValue head isTokenized)
  | .attributeDefault head isTokenized, .literal text behind
  | .fixedValue head isTokenized, .literal text behind =>
    state.declareDefault start head isTokenized text behind
  -- content models
  | .modelElement, .name _ => state.expect .model
  | .model, .name "EMPTY" | .model, .name "ANY" => state.expect .declarationEnd
  | .model, .group => state.expect .modelStart
  | .modelStart, .reserved "PCDATA" => state.expect .mixedEnd
  | .modelStart, .group => state.expect (.part [none, none])
  | .modelStart, .name _ | .modelStart, .repeatedName => state.expect (.connector [none])
  | .mixedEnd, .groupEnd none | .mixedEnd, .groupEnd (some '*') => state.expect .declarationEnd
  | .mixedEnd, .bar | .mixedMore, .bar => state.expect .mixedName
  | .mixedName, .name _ => state.expect .mixedMore
  | .mixedMore, .groupEnd (some '*') => state.expect .declarationEnd
  | .part groups, .group => state.expect (.part (none :: groups))
  | .part groups, .name _ | .part groups, .repeatedName => state.expect (.connector groups)
  | .connector groups, .groupEnd _ => state.closeGroup groups
  | .connector groups, .comma =>
    if groups.head? = some (some '|') then .error ⟨misplaced mark, start⟩
    else state.expect (.part (some ',' :: groups.tail))
  | .connector groups, .bar =>
    if groups.head? = some (some ',') then .error ⟨misplaced mark, start⟩
    else state.expect (.part (some '|' :: groups.tail))
  | _, _ => .error ⟨misplaced mark, start⟩

end State

/-- Read what stands in front of the root element, and stop at its tag. -/
def read [Naming] (state : State) (s : List Char) : Except Failure (Doctype × List Char) :=
  match s with
  | [] => .error ⟨.noElement, []⟩
  | c :: tail =>
    match taken : Mark.next (c :: tail) with
    | .error failure => .error failure
    | .ok (mark, rest) =>
      have : rest.length < tail.length + 1 := Mark.next_length taken
      match mark with
      | .element =>
        match state.expecting with
        | .root _ => .ok (state.doctype, s)
        | _ => .error ⟨.invalidSyntax, s⟩
      | .blanks => read state rest
      | _ =>
        match state.step s mark with
        | .error failure => .error failure
        | .ok state => read state rest
termination_by s.length

end XmlSettings.Xml.Doctype
