import XmlSettings.Schema.Hint
import XmlSettings.Text.LowerCase
import XmlSettings.Value.Basic

/-! # Classes

A class has named fields, each with a declared type.  `Classes.build` builds an instance from
the values of some fields; the other fields have their defaults, and one without a default has to be
given.
-/

namespace XmlSettings.Schema

/-- What a field holds unless a value is given. -/
inductive Default where
  | required
  | value (v : Value)
  /-- A new instance of a class, built from its own defaults. -/
  | instance (className : Text)

structure Field where
  name : Text
  hint : Hint
  default : Default
  /-- Whether a value may be given for the field. -/
  isSettable : Bool

def Field.isRequired (field : Field) : Bool :=
  match field.default with
  | .required => true
  | _ => false

abbrev Classes := Entries Text (List Field)

/-- Keys name fields whatever the case of their letters, and hyphens are as good as underscores. -/
def normal (name : Text) : Text :=
  Text.lower (.ofList (name.toList.map fun c => if c = Rune.char '-' then Rune.char '_' else c))

/-- The fields that values can be given for, by the normal form of their names.  Of two fields with
    one normal form the later one counts. -/
def settable (fields : List Field) : Entries Text Field :=
  Entries.ofPairs ((fields.filter (·.isSettable)).map fun field => (normal field.name, field))

inductive ConstructError where
  | incomplete
  /-- Building an instance from defaults comes back to its own class. -/
  | endless

namespace Classes

mutual

/-- Build an instance of a class from the values of some fields.  Classes of which an instance is
    being built already are left out. -/
def build (classes : Classes) (className : Text) (given : Entries Text Value) :
    Except ConstructError Value :=
  match opened : classes.get? className with
  | none => .error .endless
  | some fields =>
    if fields.any fun field => field.isSettable && field.isRequired && !given.hasKey field.name then
      .error .incomplete
    else
      have := Entries.erase_length_lt opened
      match fieldValues (classes.erase className) given fields with
      | .ok values => .ok (.record className values)
      | .error e => .error e
termination_by (classes.length, 0)

def fieldValues (classes : Classes) (given : Entries Text Value) :
    List Field → Except ConstructError (List (Text × Value))
  | [] => .ok []
  | field :: rest =>
    match if field.isSettable then given.get? field.name else none with
    | some v => do
      let more ← fieldValues classes given rest
      .ok ((field.name, v) :: more)
    | none =>
      match field.default with
      | .required => fieldValues classes given rest
      | .value v => do
        let more ← fieldValues classes given rest
        .ok ((field.name, v) :: more)
      | .instance inner => do
        let v ← build classes inner []
        let more ← fieldValues classes given rest
        .ok ((field.name, v) :: more)
termination_by fields => (classes.length, fields.length + 1)

end

mutual

/-- A value in which every record has all fields of its class: those it does not give hold their
    defaults. -/
def complete (classes : Classes) : Value → Value
  | .list items => .list (completeItems classes items)
  | .table entries => .table (completeEntries classes entries)
  | .record className fields =>
    let given := completeEntries classes fields
    match classes.build className given with
    | .ok v => v
    | .error _ => .record className given
  | value => value
termination_by structural value => value

def completeItems (classes : Classes) : List Value → List Value
  | [] => []
  | item :: rest => complete classes item :: completeItems classes rest
termination_by structural items => items

def completeEntries (classes : Classes) : List (Text × Value) → List (Text × Value)
  | [] => []
  | (key, value) :: rest => (key, complete classes value) :: completeEntries classes rest
termination_by structural entries => entries

end

end Classes

end XmlSettings.Schema
