import XmlSettings.Xml.Doctype

/-! # Attribute values

The value of an attribute is what is written between its quotes with blanks made alike and
references replaced.  An entity may hold references of its own; it is closed while it is being
replaced, so that none can hold itself.
-/

namespace XmlSettings.Xml

/-- A fault in an attribute value, and the value from its place on unless the fault is blamed on the
    tag as a whole. -/
structure ValueFault where
  fault : Fault
  rest? : Option (List Char)

namespace ValueFault

def failure (token behind : List Char) (found : ValueFault) : Failure :=
  ⟨found.fault, match found.rest? with
    | some rest => rest ++ behind
    | none => token⟩

end ValueFault

namespace AttributeValue

inductive Origin where
  | document
  /-- In the text of an entity, where line ends are plain characters. -/
  | entity
deriving DecidableEq

/-- What a written value stands for.  `closed` holds the entities that are not being replaced. -/
def expand [Naming] (doctype : Doctype) (closed : Entries String Entity) (origin : Origin) (s : List Char) :
    Except ValueFault (List Char) :=
  match s with
  | [] => .ok []
  | c :: rest =>
    if c = '&' then
      match taken : Scan.reference rest with
      | .error (.unexpected place) => .error ⟨.invalidToken, some place⟩
      | .error _ => .error ⟨.invalidToken, some s⟩
      | .ok (target, behind) =>
        have : behind.length < rest.length + 1 :=
          Nat.lt_succ_of_le (Scan.reference_suffix taken).length_le
        match target with
        | .character none => .error ⟨.invalidCharacterNumber, some s⟩
        | .character (some d) => do
          let more ← expand doctype closed origin behind
          .ok (d :: more)
        | .entity name =>
          match Doctype.predefined? name with
          | some d => do
            let more ← expand doctype closed origin behind
            .ok (d :: more)
          | none =>
            match doctype.entities.get? name with
            | none =>
              if doctype.isComplete then .error ⟨.undefinedEntity, none⟩
              else expand doctype closed origin behind
            | some _ =>
              match opened : closed.get? name with
              | none => .error ⟨.recursiveEntity, none⟩
              | some .binary => .error ⟨.binaryEntity, some s⟩
              | some .external => .error ⟨.externalEntityInAttribute, some s⟩
              | some (.internal text) =>
                have := Entries.erase_length_lt opened
                match expand doctype (closed.erase name) .entity text with
                | .error found => .error ⟨found.fault, none⟩
                | .ok inner => do
                  let more ← expand doctype closed origin behind
                  .ok (inner ++ more)
    else if c = '<' then .error ⟨.invalidToken, some s⟩
    else if c = '\r' ∧ origin = .document ∧ rest.head? = some '\n' then
      expand doctype closed origin rest
    else do
      let more ← expand doctype closed origin rest
      .ok ((if isBlank c then ' ' else c) :: more)
termination_by (closed.length, s.length)

/-- Leave out spaces at both ends, and all but one where several stand together. -/
def collapse (s : List Char) : List Char :=
  go (s.dropWhile (· == ' '))
where
  go : List Char → List Char
    | [] => []
    | c :: rest =>
      if c = ' ' ∧ (rest.head? = none ∨ rest.head? = some ' ') then go rest else c :: go rest

def ofWritten [Naming] (doctype : Doctype) (closed : Entries String Entity) (origin : Origin) (isTokenized : Bool)
    (s : List Char) : Except ValueFault (List Char) := do
  let value ← expand doctype closed origin s
  .ok (if isTokenized then collapse value else value)

end AttributeValue

end XmlSettings.Xml
