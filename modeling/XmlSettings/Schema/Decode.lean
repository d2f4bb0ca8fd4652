import XmlSettings.Schema.Run
import XmlSettings.Value.Flag

/-! # Decoding

A table is decoded into an instance of a class: its keys are matched with the fields, and each value
is decoded into the type that its field is declared with.  Documents carry no types, so scalars are
converted to the wanted type unless conversion is turned off, and a single value stands for a list
of one.

Every step goes to a smaller value, or stays at the value and goes to a smaller type; so decoding
ends also for classes that refer to themselves.
-/

namespace XmlSettings.Schema

structure Settings where
  /-- Whether scalars are converted to the type that is wanted. -/
  convert : Bool
  /-- Whether every key has to name a field. -/
  rejectUnused : Bool

def Settings.standard : Settings := ⟨true, false⟩

def Plain.accepts : Plain → Value → Bool
  | object, _ => true
  | nothing, .nothing => true
  | list, .list _ => true
  | table, .table _ => true
  | _, _ => false

def Scalar.accepts : Scalar → Value → Bool
  | text, .text _ => true
  | flag, .flag _ => true
  | integer, .integer _ => true
  | real, .real _ => true
  | _, _ => false

def isComposite : Value → Bool
  | .list _ | .table _ => true
  | _ => false

/-- Find that a value does not stand for one of a scalar type.  That cannot be said of a value that
    cannot be shown, which fails altogether. -/
def refuse (path : Path) (raw : Value) (type : Scalar) : Run Value :=
  if raw.isShowable then Run.reject (.unparsable path raw type) else Run.fail (.number .unwritable)

/-- Convert a number; a value that is none does not fit, and a number without counterpart fails
    altogether. -/
def convertNumber {α : Type} (path : Path) (raw : Value) (type : Scalar) (wrap : α → Value)
    (converted : Except NumberError α) : Run Value :=
  match converted with
  | .ok x => pure (wrap x)
  | .error .infiniteAsInteger => Run.fail (.number .infiniteAsInteger)
  | .error .beyondReals => Run.fail (.number .beyondReals)
  | .error _ => refuse path raw type

def decodeScalar (settings : Settings) (path : Path) (raw : Value) (type : Scalar) : Run Value :=
  if type.accepts raw then pure raw
  else if isComposite raw || !settings.convert then
    Run.reject (.unexpected path type.name raw.kindName)
  else
    match type with
    | .text =>
      match raw.written with
      | .ok text => pure (.text text)
      | .error e => Run.fail (.number e)
    | .flag =>
      match raw.flag? with
      | some b => pure (.flag b)
      | none => refuse path raw type
    | .integer => convertNumber path raw type .integer raw.toInteger
    | .real => convertNumber path raw type .real raw.toReal

def checkGiven (path : Path) (values : Entries Text Value) : List Field → Run PUnit
  | [] => pure ⟨⟩
  | field :: rest =>
    if field.isRequired && !values.hasKey field.name then
      Run.reject (.missing (.field field.name :: path))
    else checkGiven path values rest

def construct (classes : Classes) (className : Text) (values : Entries Text Value) : Run Value :=
  match classes.build className values with
  | .ok v => pure v
  | .error e => Run.fail (.unbuilt e)

def fieldsOf (classes : Classes) (className : Text) : Entries Text Field :=
  settable ((classes.get? className).getD [])

mutual

def decodeValue (classes : Classes) (settings : Settings) (path : Path) (raw : Value) (hint : Hint) :
    Run Value :=
  match hint with
  | .any | .unchecked _ _ => pure raw
  | .scalar type => decodeScalar settings path raw type
  | .plain type =>
    if type.accepts raw then pure raw
    else Run.reject (.unexpected path type.name raw.kindName)
  | .union spelling members =>
    match raw with
    | .nothing =>
      if members.any Hint.isNothing then pure .nothing
      else decodeMember classes settings path .nothing (.union spelling members) [] members
    | raw => decodeMember classes settings path raw (.union spelling members) [] members
  | .list _ item =>
    match raw with
    | .list items => do
      let items ← decodeItems classes settings path 0 items item
      pure (.list items)
    | raw => do
      let only ← decodeValue classes settings (.index 0 :: path) raw item
      pure (.list [only])
  | .table _ value =>
    match raw with
    | .table entries => do
      let entries ← decodeEntries classes settings path entries value
      pure (.table entries)
    | raw => Run.reject (.noTable path "" raw.kindName)
  | .record className => do
    let values ← decodeFields classes settings path className raw
    checkGiven path values ((fieldsOf classes className).map (·.2))
    construct classes className values
termination_by (sizeOf raw, 2 * sizeOf hint + 1)

/-- Decode a value into the first member of a union that it fits; `nothing` is no candidate. -/
def decodeMember (classes : Classes) (settings : Settings) (path : Path) (raw : Value)
    (whole : Hint) (errors : List DecodeError) (members : List Hint) : Run Value :=
  match members with
  | [] => Run.reject (.noMember path whole errors.reverse)
  | member :: rest =>
    if member.isNothing then decodeMember classes settings path raw whole errors rest
    else
      (decodeValue classes settings path raw member).orElseRejected fun e =>
        decodeMember classes settings path raw whole (e :: errors) rest
termination_by (sizeOf raw, 2 * sizeOf members)

def decodeItems (classes : Classes) (settings : Settings) (path : Path) (i : Nat)
    (items : List Value) (hint : Hint) : Run (List Value) :=
  match items with
  | [] => pure []
  | item :: rest => do
    let item ← decodeValue classes settings (.index i :: path) item hint
    let rest ← decodeItems classes settings path (i + 1) rest hint
    pure (item :: rest)
termination_by (sizeOf items, 0)

def decodeEntries (classes : Classes) (settings : Settings) (path : Path)
    (entries : List (Text × Value)) (hint : Hint) : Run (List (Text × Value)) :=
  match entries with
  | [] => pure []
  | (key, value) :: rest => do
    let value ← decodeValue classes settings (.key key :: path) value hint
    let rest ← decodeEntries classes settings path rest hint
    pure ((key, value) :: rest)
termination_by (sizeOf entries, 0)

def decodeFields (classes : Classes) (settings : Settings) (path : Path) (className : Text)
    (raw : Value) : Run (Entries Text Value) :=
  match raw with
  | .table entries => decodeKeys classes settings path className [] entries
  | raw => Run.reject (.noTable path className raw.kindName)
termination_by (sizeOf raw, 0)

/-- Decode the values under keys that name fields, and add them to the values so far. -/
def decodeKeys (classes : Classes) (settings : Settings) (path : Path) (className : Text)
    (values : Entries Text Value) (entries : List (Text × Value)) : Run (Entries Text Value) :=
  match entries with
  | [] => pure values
  | (key, raw) :: rest =>
    match (fieldsOf classes className).get? (normal key) with
    | none =>
      if settings.rejectUnused then Run.reject (.unusedKey path className key)
      else do
        Run.note ⟨key, className⟩
        decodeKeys classes settings path className values rest
    | some field => do
      let value ← decodeValue classes settings (.field field.name :: path) raw field.hint
      decodeKeys classes settings path className (values.put field.name value) rest
termination_by (sizeOf entries, 0)

end

end XmlSettings.Schema
