import XmlSettings.Proofs.Schema.Instance

/-! # Building instances

An instance is built from those of its values that documents show: the other fields have their defaults
(`build_shown`).
-/

namespace XmlSettings.Schema

variable {classes : Classes} {className : Text} {declared : List Field} {field : Field}
  {fields : List (Text × Value)} {name : Text} {value : Value}

/-! ## Fields by name -/

/-- A class that can be kept has settable fields only. -/
theorem filter_isSettable (storable : AreStorableFields declared) :
    declared.filter (·.isSettable) = declared := by
  refine List.filter_eq_self.2 fun field member => ?_
  exact isSettable_of_isStorable (storable.storable field member)

theorem haveDistinctNames_of_storable (storable : AreStorableFields declared) :
    HaveDistinctNames declared := by
  rw [HaveDistinctNames, filter_isSettable storable]
  exact storable.distinct

/-- The fields of a class that can be kept are found by the normal form of their names. -/
theorem fieldsOf_eq_map (storable : AreStorableFields declared)
    (known : classes.get? className = some declared) :
    fieldsOf classes className = declared.map fun field => (normal field.name, field) := by
  rw [fieldsOf_of_distinct known (haveDistinctNames_of_storable storable),
    filter_isSettable storable]

theorem get?_fieldsOf (storable : AreStorableFields declared)
    (known : classes.get? className = some declared) (member : field ∈ declared) :
    (fieldsOf classes className).get? (normal field.name) = some field :=
  get?_fieldsOf_of_distinct known (haveDistinctNames_of_storable storable) member
    (isSettable_of_isStorable (storable.storable field member))

/-! ## Values that are shown -/

/-- The values of fields that documents show. -/
def shown (fields : List (Text × Value)) : Entries Text Value :=
  fields.filter fun entry => !isOmitted entry.2

theorem mem_shown : (name, value) ∈ shown fields ↔ (name, value) ∈ fields ∧ isOmitted value = false := by
  simp [shown]

theorem keys_shown (fields : List (Text × Value)) :
    List.Sublist (Entries.keys (shown fields)) (Entries.keys fields) :=
  List.filter_sublist.map Prod.fst

theorem get?_shown (distinct : (Entries.keys fields).Nodup) (member : (name, value) ∈ fields) :
    (shown fields).get? name = if isOmitted value then none else some value := by
  have kept : (shown fields).keys.Nodup := (keys_shown fields).nodup distinct
  split
  next omitted =>
    refine Entries.get?_eq_none_iff.2 fun known => ?_
    obtain ⟨⟨_, other⟩, found, rfl⟩ := List.mem_map.1 known
    obtain ⟨inside, isShown⟩ := mem_shown.1 found
    have same : some other = some value :=
      (Entries.get?_of_mem distinct inside).symm.trans (Entries.get?_of_mem distinct member)
    cases same
    rw [omitted] at isShown
    cases isShown
  next isShown => exact Entries.get?_of_mem kept (mem_shown.2 ⟨member, by simpa using isShown⟩)

/-! ## Building -/

/-- The values that are given, and the defaults for the others. -/
theorem areFilled_of_haveFields {others : Classes} {given : Entries Text Value}
    (values : HaveFields classes declared fields)
    (storable : ∀ field ∈ declared, field.isStorable = true)
    (each : ∀ name value, (name, value) ∈ fields →
      given.get? name = if isOmitted value then none else some value) :
    AreFilled others given declared fields := by
  induction values with
  | nil => exact .nil
  | @cons field value declared fields held _ ih =>
    obtain ⟨first, storable⟩ := List.forall_mem_cons.1 storable
    have found := each field.name value List.mem_cons_self
    have later := ih storable fun name value member => each name value (List.mem_cons_of_mem _ member)
    rw [← given?_of_isSettable (isSettable_of_isStorable first)] at found
    cases omitted : isOmitted value with
    | true =>
      have default := default_of_isOmitted (isKind_of_isStorable first) held omitted
      rw [omitted, if_pos rfl] at found
      exact .held found (default ▸ .value value) later
    | false =>
      rw [omitted, if_neg Bool.false_ne_true] at found
      exact .given found later

/-- A field that has to be given is shown. -/
theorem isOmitted_of_isRequired (storable : field.isStorable = true)
    (held : isInstance classes field.hint value = true) (required : field.isRequired = true) :
    isOmitted value = false := by
  cases omitted : isOmitted value with
  | false => rfl
  | true =>
    have default := default_of_isOmitted (isKind_of_isStorable storable) held omitted
    rw [Field.isRequired, default] at required
    cases required

theorem hasKey_shown_of_isRequired (storable : AreStorableFields declared)
    (values : HaveFields classes declared fields) (member : field ∈ declared)
    (required : field.isRequired = true) : (shown fields).hasKey field.name = true := by
  obtain ⟨value, found, held⟩ := values.value_of_mem member
  have isShown := isOmitted_of_isRequired (storable.storable field member) held required
  exact Entries.hasKey_iff.2 (List.mem_map.2 ⟨_, mem_shown.2 ⟨found, isShown⟩, rfl⟩)

/-- An instance is built from its values that are shown. -/
theorem build_shown (storable : AreStorableFields declared)
    (known : classes.get? className = some declared)
    (values : HaveFields classes declared fields) :
    classes.build className (shown fields) = .ok (.record className fields) := by
  have distinct : (Entries.keys fields).Nodup := by
    rw [values.names]
    exact storable.names
  refine build_eq_ok_iff.2 ⟨declared, fields, known, fun field member _ => ?_, ?_, rfl⟩
  · exact hasKey_shown_of_isRequired storable values member
  · exact areFilled_of_haveFields values storable.storable fun name value => get?_shown distinct

end XmlSettings.Schema
