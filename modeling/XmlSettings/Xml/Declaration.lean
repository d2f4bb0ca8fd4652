import XmlSettings.Xml.Scan

/-! # The declaration that a document opens with

`<?xml version="1.0" encoding="utf-8" standalone="yes"?>`: the version has to be given, the other two
may follow in this order.
-/

namespace XmlSettings.Xml

structure Declaration where
  /-- The name of the encoding, and the input from it on. -/
  encoding? : Option (String × List Char)
  isStandalone : Bool

namespace Declaration

structure Setting where
  name : List Char
  start : List Char
  value : List Char
  valueStart : List Char

def isValueChar (c : Char) : Bool :=
  c.isAlphanum || c == '.' || c == '-' || c == '_'

/-- Whether a character may stand in a name.  Names are not checked further, since only three of
    them mean anything. -/
def isSettingChar (c : Char) : Bool :=
  c.toNat < 0x80 && !isBlank c && c != '='

/-- Read the next setting, if there is one; the error is the input from the fault on. -/
def setting? (s : List Char) : Except (List Char) (Option (Setting × List Char)) :=
  match s with
  | [] => .ok none
  | c :: _ =>
    if !isBlank c then .error s
    else
      match Scan.skipBlanks s with
      | [] => .ok none
      | start@(first :: _) =>
        let name := start.takeWhile isSettingChar
        match Scan.skipBlanks (start.dropWhile isSettingChar) with
        | '=' :: behind =>
          if first = '=' then .error start
          else
            match Scan.skipBlanks behind with
            | [] => .error []
            | quote :: inside =>
              if quote = '"' ∨ quote = '\x27' then
                match inside.dropWhile isValueChar with
                | [] => .error []
                | closing :: rest =>
                  if closing = quote then
                    .ok (some (⟨name, start, inside.takeWhile isValueChar, inside⟩, rest))
                  else .error (closing :: rest)
              else .error (quote :: inside)
        | rest => .error rest

def standalone (declaration : Declaration) (found : Setting) (s : List Char) :
    Except (List Char) Declaration :=
  if found.name ≠ "standalone".toList then .error found.start
  else if found.value ≠ "yes".toList ∧ found.value ≠ "no".toList then .error found.valueStart
  else
    match Scan.skipBlanks s with
    | [] => .ok { declaration with isStandalone := found.value = "yes".toList }
    | rest => .error rest

/-- Read the settings of a declaration.  The encoding's place is relative to them. -/
def ofSettings (s : List Char) : Except (List Char) Declaration := do
  match ← setting? s with
  | none => .error s
  | some (version, rest) =>
    if version.name ≠ "version".toList then .error version.start
    else
      match ← setting? rest with
      | none => .ok ⟨none, false⟩
      | some (second, rest) =>
        if second.name = "encoding".toList then
          if ¬ (second.value.head?.map Char.isAlpha).getD false then .error second.valueStart
          else
            let declaration := ⟨some (String.ofList second.value, second.valueStart), false⟩
            match ← setting? rest with
            | none => .ok declaration
            | some (third, rest) => standalone declaration third rest
        else standalone ⟨none, false⟩ second rest

def read? (s : List Char) : Except Failure (Option (Declaration × List Char)) :=
  match s with
  | '<' :: '?' :: inside =>
    match Scan.instruction inside with
    | .error halt => .error (halt.failure s)
    | .ok (.foreign, _) => .ok none
    | .ok (.declaration, rest) =>
      let settings := (inside.drop 3).take (inside.length - 3 - rest.length - 2)
      let behind := '?' :: '>' :: rest
      match ofSettings settings with
      | .error place => .error ⟨.malformedDeclaration, place ++ behind⟩
      | .ok ⟨encoding?, isStandalone⟩ =>
        .ok (some (⟨encoding?.map fun (name, place) => (name, place ++ behind), isStandalone⟩, rest))
  | _ => .ok none

end Declaration

end XmlSettings.Xml
