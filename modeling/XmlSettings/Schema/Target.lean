import XmlSettings.Schema.Decode

/-! # Targets

A table is decoded into a new instance of a class, or into one that is there already.  The fields of
one that is there are set one after the other once all values have been decoded.  Fields that no key
names keep what they hold, so nothing is missing.
-/

namespace XmlSettings.Schema

inductive Target where
  | fresh (className : Text)
  /-- A value that is there already; an instance of a class is updated. -/
  | existing (value : Value)
  | foreign (name : Text)

/-! ## Updating an instance -/

structure Draft where
  fields : Entries Text Value
  notes : List Note

/-- An operation on an instance.  It changes the instance even where it fails, as far as it got. -/
abbrev Update (α : Type) := ExceptT Failure (StateM Draft) α

namespace Update

/-- Go on with what a run gives.  Its notes stay where it fails, too. -/
def ofRun {α : Type} (run : Run α) : Update α := do
  modify fun draft => { draft with notes := draft.notes ++ run.notes }
  match run.result with
  | .ok a => pure a
  | .error e => throw e

def setField (name : Text) (value : Value) : Update Unit :=
  modify fun draft => { draft with fields := draft.fields.put name value }

def setFields : List (Text × Value) → Update Unit
  | [] => pure ()
  | (name, value) :: rest => do
    setField name value
    setFields rest

def decode (classes : Classes) (settings : Settings) (className : Text) (raw : Value) :
    Update Unit := do
  let values ← ofRun (decodeFields classes settings [] className raw)
  setFields values

end Update

/-! ## Decoding into a target -/

structure Decoding where
  run : Run Value
  target : Target

def Target.decode (classes : Classes) (settings : Settings) (target : Target) (raw : Value) :
    Decoding :=
  match target with
  | .fresh className => ⟨decodeValue classes settings [] raw (.record className), target⟩
  | .existing (.record className fields) =>
    let (result, draft) := (Update.decode classes settings className raw).run.run ⟨fields, []⟩
    let updated := Value.record className draft.fields
    ⟨⟨draft.notes, result.map fun _ => updated⟩, .existing updated⟩
  | .existing value => ⟨Run.reject (.noClass value.kindName), target⟩
  | .foreign name => ⟨Run.reject (.noClass name), target⟩

def decode (classes : Classes) (settings : Settings) (target : Target) (raw : Value) : Run Value :=
  (target.decode classes settings raw).run

end XmlSettings.Schema
