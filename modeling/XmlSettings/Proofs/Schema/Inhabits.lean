import XmlSettings.Proofs.Schema.Defaults

/-! # Values of declared types

Which values a raw value may be decoded into for a declared type (`Inhabits`): a scalar of the type, the
raw value itself where it is of a plain type, a value of one of the members of a union, lists and tables
of values of the inner type, and an instance of a class whose fields hold what was decoded for the last
key that names them, or else their defaults.
-/

namespace XmlSettings

mutual

/-- Whether a value is made of texts, lists and tables. -/
def Value.isOfTexts : Value → Bool
  | .text _ => true
  | .list items => Value.areOfTexts items
  | .table entries => Value.holdsTexts entries
  | _ => false
termination_by structural value => value

def Value.areOfTexts : List Value → Bool
  | [] => true
  | item :: rest => Value.isOfTexts item && Value.areOfTexts rest
termination_by structural items => items

def Value.holdsTexts : List (Text × Value) → Bool
  | [] => true
  | (_, value) :: rest => Value.isOfTexts value && Value.holdsTexts rest
termination_by structural entries => entries

end

namespace Schema

/-- The value under the last key that names a field. -/
def lastNamed (name : Text) : List (Text × Value) → Option Value
  | [] => none
  | (key, raw) :: rest =>
    (lastNamed name rest).or (if normal key = normal name then some raw else none)

mutual

/-- Whether a raw value may be decoded into a value of a declared type. -/
inductive Inhabits (classes : Classes) : Hint → Value → Value → Prop where
  | any {raw : Value} : Inhabits classes .any raw raw
  | unchecked {spelling : Spelling} {text : Text} {raw : Value} :
      Inhabits classes (.unchecked spelling text) raw raw
  | scalar {type : Scalar} {raw value : Value} (accepted : type.accepts value = true) :
      Inhabits classes (.scalar type) raw value
  | plain {type : Plain} {raw : Value} (accepted : type.accepts raw = true) :
      Inhabits classes (.plain type) raw raw
  | union {spelling : Spelling} {members : List Hint} {hint : Hint} {raw value : Value}
      (member : hint ∈ members) (inside : Inhabits classes hint raw value) :
      Inhabits classes (.union spelling members) raw value
  | items {spelling : Spelling} {item : Hint} {raws values : List Value}
      (each : AllInhabit classes item raws values) :
      Inhabits classes (.list spelling item) (.list raws) (.list values)
  | only {spelling : Spelling} {item : Hint} {raw value : Value}
      (single : ∀ items, raw ≠ .list items) (inside : Inhabits classes item raw value) :
      Inhabits classes (.list spelling item) raw (.list [value])
  | table {spelling : Spelling} {hint : Hint} {raws values : List (Text × Value)}
      (each : EntriesInhabit classes hint raws values) :
      Inhabits classes (.table spelling hint) (.table raws) (.table values)
  | record {className : Text} {declared : List Field} {raws fields : List (Text × Value)}
      (known : classes.get? className = some declared)
      (each : FieldsInhabit classes raws declared fields) :
      Inhabits classes (.record className) (.table raws) (.record className fields)

/-- The items of a list, one by one. -/
inductive AllInhabit (classes : Classes) : Hint → List Value → List Value → Prop where
  | nil {hint : Hint} : AllInhabit classes hint [] []
  | cons {hint : Hint} {raw value : Value} {raws values : List Value}
      (first : Inhabits classes hint raw value) (more : AllInhabit classes hint raws values) :
      AllInhabit classes hint (raw :: raws) (value :: values)

/-- The values of a table under the same keys. -/
inductive EntriesInhabit (classes : Classes) :
    Hint → List (Text × Value) → List (Text × Value) → Prop where
  | nil {hint : Hint} : EntriesInhabit classes hint [] []
  | cons {hint : Hint} {key : Text} {raw value : Value} {raws values : List (Text × Value)}
      (first : Inhabits classes hint raw value) (more : EntriesInhabit classes hint raws values) :
      EntriesInhabit classes hint ((key, raw) :: raws) ((key, value) :: values)

/-- The fields of an instance in order.  Only a field that cannot be given and has no default is not
    there. -/
inductive FieldsInhabit (classes : Classes) :
    List (Text × Value) → List Field → List (Text × Value) → Prop where
  | nil {raws : List (Text × Value)} : FieldsInhabit classes raws [] []
  | filled {field : Field} {raw value : Value} {declared : List Field}
      {raws fields : List (Text × Value)}
      (settable : field.isSettable = true) (named : lastNamed field.name raws = some raw)
      (inside : Inhabits classes field.hint raw value)
      (more : FieldsInhabit classes raws declared fields) :
      FieldsInhabit classes raws (field :: declared) ((field.name, value) :: fields)
  | default {field : Field} {value : Value} {declared : List Field}
      {raws fields : List (Text × Value)}
      (absent : field.isSettable = true → lastNamed field.name raws = none)
      (holds : IsDefault classes field.default value)
      (more : FieldsInhabit classes raws declared fields) :
      FieldsInhabit classes raws (field :: declared) ((field.name, value) :: fields)
  | bare {field : Field} {declared : List Field} {raws fields : List (Text × Value)}
      (unsettable : field.isSettable = false) (required : field.isRequired = true)
      (more : FieldsInhabit classes raws declared fields) :
      FieldsInhabit classes raws (field :: declared) fields

end

/-! ## Well-formed classes -/

mutual

/-- Whether all classes in a type are known. -/
def Hint.isKnown (classes : Classes) : Hint → Bool
  | .list _ item => Hint.isKnown classes item
  | .table _ value => Hint.isKnown classes value
  | .union _ members => Hint.areKnown classes members
  | .record className => classes.hasKey className
  | _ => true
termination_by structural hint => hint

def Hint.areKnown (classes : Classes) : List Hint → Bool
  | [] => true
  | hint :: rest => Hint.isKnown classes hint && Hint.areKnown classes rest
termination_by structural hints => hints

end

/-- Whether no key names two fields of a class. -/
def Classes.HaveDistinctNames (classes : Classes) : Prop :=
  ∀ entry ∈ classes, Schema.HaveDistinctNames entry.2

theorem Classes.HaveDistinctNames.of_get? {classes : Classes} {className : Text}
    {declared : List Field} (distinct : classes.HaveDistinctNames) (known : classes.get? className = some declared) :
    Schema.HaveDistinctNames declared :=
  distinct _ (Entries.mem_of_get? known)

/-- Whether the types of all fields are known, and every default gives a value. -/
structure Classes.AreComplete (classes : Classes) : Prop where
  isKnown : ∀ entry ∈ classes, ∀ field ∈ entry.2, field.hint.isKnown classes = true
  gives : ∀ entry ∈ classes, ∀ field ∈ entry.2, field.isRequired = false →
    ∃ value, IsDefault classes field.default value

/-! ## Fields of an instance -/

section Fields

variable {classes : Classes} {className : Text} {declared : List Field} {field : Field}
  {raws values before : List (Text × Value)}

/-- How the value of a field comes from keys: what is decoded for the last key that names the field, or
    else what there was before. -/
def IsTaken (classes : Classes) (field : Field) (raws before values : Entries Text Value) : Prop :=
  (lastNamed field.name raws = none ∧ values.get? field.name = before.get? field.name) ∨
    ∃ raw value, lastNamed field.name raws = some raw ∧ values.get? field.name = some value ∧
      Inhabits classes field.hint raw value

/-- How the values of all fields come from keys. -/
def AreTaken (classes : Classes) (declared : List Field) (raws before values : Entries Text Value) : Prop :=
  ∀ field ∈ declared, field.isSettable = true → IsTaken classes field raws before values

theorem areTaken_nil (declared : List Field) (before : Entries Text Value) :
    AreTaken classes declared [] before before := by
  intro field _ _
  exact .inl ⟨rfl, rfl⟩

/-- A key that does not name a field is passed over. -/
theorem IsTaken.cons_of_ne {key : Text} {raw : Value} (other : normal key ≠ normal field.name)
    (taken : IsTaken classes field raws before values) :
    IsTaken classes field ((key, raw) :: raws) before values := by
  unfold IsTaken
  rw [lastNamed, if_neg other, Option.or_none]
  exact taken

/-- A value that is decoded for a field counts unless the field is named once more. -/
theorem IsTaken.cons_of_eq {key : Text} {raw value : Value} (same : normal key = normal field.name)
    (inside : Inhabits classes field.hint raw value)
    (taken : IsTaken classes field raws (Entries.put field.name value before) values) :
    IsTaken classes field ((key, raw) :: raws) before values := by
  unfold IsTaken
  rw [lastNamed, if_pos same]
  rcases taken with ⟨last, found⟩ | ⟨later, result, last, found, decoded⟩
  · rw [Entries.get?_put, if_pos rfl] at found
    exact .inr ⟨raw, value, by rw [last, Option.none_or], found, inside⟩
  · exact .inr ⟨later, result, by rw [last, Option.some_or], found, decoded⟩

/-- A value for one field leaves the other fields alone. -/
theorem IsTaken.of_put {other : Text} {value : Value} (differs : other ≠ field.name)
    (taken : IsTaken classes field raws (Entries.put other value before) values) :
    IsTaken classes field raws before values := by
  unfold IsTaken at taken ⊢
  rw [Entries.get?_put, if_neg differs] at taken
  exact taken

/-- The fields of an instance that was built from what was decoded. -/
theorem fieldsInhabit_of_areFilled {fields : List (Text × Value)}
    (taken : AreTaken classes declared raws [] values)
    (complete : GivesRequired values declared)
    (filled : AreFilled (classes.erase className) values declared fields) :
    FieldsInhabit classes raws declared fields := by
  induction filled with
  | nil => exact .nil
  | given found _ ih =>
    obtain ⟨taken, takenLater⟩ := List.forall_mem_cons.1 taken
    obtain ⟨settable, found⟩ := given?_eq_some_iff.1 found
    have later := ih takenLater (List.forall_mem_cons.1 complete).2
    rcases taken settable with ⟨_, none⟩ | ⟨raw, value, named, again, inside⟩
    · cases none.symm.trans found
    · cases again.symm.trans found
      exact .filled settable named inside later
  | held missing gives _ ih =>
    obtain ⟨taken, takenLater⟩ := List.forall_mem_cons.1 taken
    refine .default (fun settable => ?_) gives.isDefault_erase
      (ih takenLater (List.forall_mem_cons.1 complete).2)
    rw [given?_of_isSettable settable] at missing
    rcases taken settable with ⟨absent, _⟩ | ⟨_, _, _, found, _⟩
    · exact absent
    · cases missing.symm.trans found
  | absent missing required _ ih =>
    obtain ⟨complete, completeLater⟩ := List.forall_mem_cons.1 complete
    exact .bare (isSettable_of_absent complete missing required) required
      (ih (List.forall_mem_cons.1 taken).2 completeLater)

/-- Some fields of an instance are built whatever was decoded, if defaults give values. -/
theorem exists_areFilled {part : List Field} (known : classes.get? className = some declared)
    (gives : ∀ field ∈ declared, field.isRequired = false → ∃ value, IsDefault classes field.default value)
    (inside : ∀ field ∈ part, field ∈ declared) :
    ∃ fields, AreFilled (classes.erase className) values part fields := by
  induction part with
  | nil => exact ⟨[], .nil⟩
  | cons field rest ih =>
    obtain ⟨member, inside⟩ := List.forall_mem_cons.1 inside
    obtain ⟨more, later⟩ := ih inside
    cases found : field.given? values with
    | some value => exact ⟨_, .given found later⟩
    | none =>
      by_cases required : field.isRequired = true
      · exact ⟨_, .absent found required later⟩
      · obtain ⟨value, holds⟩ := gives field member (Bool.eq_false_iff.2 required)
        exact ⟨_, .held found (gives_erase known member holds) later⟩

end Fields

end Schema

end XmlSettings
