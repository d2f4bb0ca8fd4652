import XmlSettings.Xml.AttributeValue

/-! # Namespaces

The qualifier of a name stands for a namespace.  Attributes named `xmlns:q` bind the qualifier `q`
inside their element, and the attribute named `xmlns` sets the namespace of unqualified elements.
Values are known by local names only, so what a namespace is called never shows; but qualifiers have
to be bound, some bindings are not allowed, and two attributes of an element must not agree in
namespace and local name.
-/

namespace XmlSettings.Xml

abbrev Scope := Entries String String

namespace Scope

def xmlNamespace : String := "http://www.w3.org/XML/1998/namespace"

def bindingNamespace : String := "http://www.w3.org/2000/xmlns/"

def initial : Scope := [("xml", xmlNamespace)]

inductive Binding where
  /-- Set the namespace of unqualified elements. -/
  | default
  | qualified (name : String)

def Binding.ofName? (name : QualifiedName) : Option Binding :=
  match name.qualifier? with
  | none => if name.localName = "xmlns" then some .default else none
  | some qualifier => if qualifier = "xmlns" then some (.qualified name.localName) else none

/-- The closing brace separates namespaces from names in expanded names. -/
def separator : Char := '\x7d'

def bind (scope : Scope) (binding : Binding) (namespaceName : String) : Except Fault Scope :=
  match binding with
  | .default =>
    if namespaceName.toList.contains separator then .error .invalidSyntax
    else if namespaceName = xmlNamespace ∨ namespaceName = bindingNamespace then
      .error .reservedNamespace
    else .ok scope
  | .qualified name =>
    if namespaceName = "" then .error .undeclaredPrefix
    else if name = "xmlns" then .error .reservedXmlnsPrefix
    else if namespaceName.toList.contains separator then .error .invalidSyntax
    else if name = "xml" ∧ namespaceName ≠ xmlNamespace then .error .reservedXmlPrefix
    else if name ≠ "xml" ∧ (namespaceName = xmlNamespace ∨ namespaceName = bindingNamespace) then
      .error .reservedNamespace
    else .ok (scope.put name namespaceName)

end Scope

/-! ## The attributes of an element -/

structure Attribute where
  name : QualifiedName
  value : List Char

namespace OpenTag

/-- The attributes that a tag writes, and the scope with the bindings they make. -/
def writtenAttributes [Naming] (doctype : Doctype) (closed : Entries String Entity) (origin : AttributeValue.Origin)
    (start : List Char) (element : String) (scope : Scope) (seen : List QualifiedName) :
    List RawAttribute → Except Failure (List Attribute × Scope)
  | [] => .ok ([], scope)
  | raw :: rest =>
    if seen.contains raw.name then .error ⟨.duplicateAttribute, raw.start⟩
    else
      let isTokenized := ((doctype.rule? element raw.name).map (·.isTokenized)).getD false
      match AttributeValue.ofWritten doctype closed origin isTokenized raw.value with
      | .error found => .error (found.failure start raw.behind)
      | .ok value =>
        match Scope.Binding.ofName? raw.name with
        | none => do
          let (more, scope) ← writtenAttributes doctype closed origin start element scope
            (raw.name :: seen) rest
          .ok (⟨raw.name, value⟩ :: more, scope)
        | some binding =>
          match scope.bind binding (String.ofList value) with
          | .error fault => .error ⟨fault, start⟩
          | .ok scope =>
            writtenAttributes doctype closed origin start element scope (raw.name :: seen) rest

/-- The attributes that an element has without writing them, and the scope with the bindings they
    make. -/
def defaultAttributes (start : List Char) (written : List QualifiedName) (scope : Scope) :
    List AttributeRule → Except Failure (List Attribute × Scope)
  | [] => .ok ([], scope)
  | rule :: rest =>
    match rule.default? with
    | none => defaultAttributes start written scope rest
    | some value =>
      if written.contains rule.name then defaultAttributes start written scope rest
      else
        match Scope.Binding.ofName? rule.name with
        | none => do
          let (more, scope) ← defaultAttributes start written scope rest
          .ok (⟨rule.name, value⟩ :: more, scope)
        | some binding =>
          match scope.bind binding (String.ofList value) with
          | .error fault => .error ⟨fault, start⟩
          | .ok scope => defaultAttributes start written scope rest

/-- Check that the qualified attributes are bound and differ from each other once their qualifiers
    are replaced by namespaces. -/
def checkQualified (scope : Scope) (seen : List (String × String)) : List Attribute → Except Fault Unit
  | [] => .ok ()
  | first :: rest =>
    match first.name.qualifier? with
    | none => checkQualified scope seen rest
    | some qualifier =>
      match scope.get? qualifier with
      | none => .error .unboundPrefix
      | some namespaceName =>
        let expanded := (namespaceName, first.name.localName)
        if seen.contains expanded then .error .duplicateAttribute
        else checkQualified scope (expanded :: seen) rest

def resolve [Naming] (doctype : Doctype) (closed : Entries String Entity) (origin : AttributeValue.Origin)
    (start : List Char) (scope : Scope) (tag : OpenTag) :
    Except Failure (List Attribute × Scope) := do
  let element := tag.name.written
  let (written, scope) ← writtenAttributes doctype closed origin start element scope []
    tag.attributes
  let rules := doctype.attributes.filter (·.element == element)
  let (defaults, scope) ← defaultAttributes start (tag.attributes.map (·.name)) scope rules
  match checkQualified scope [] (written ++ defaults) with
  | .error fault => .error ⟨fault, start⟩
  | .ok () =>
    match tag.name.qualifier? with
    | none => .ok (written ++ defaults, scope)
    | some qualifier =>
      if scope.hasKey qualifier then .ok (written ++ defaults, scope)
      else .error ⟨.unboundPrefix, start⟩

end OpenTag

end XmlSettings.Xml
