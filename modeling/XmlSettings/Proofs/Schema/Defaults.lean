import XmlSettings.Proofs.Entries
import XmlSettings.Proofs.Outcome
import XmlSettings.Schema.Decode

/-! # Defaults

What a default gives is a value, or an instance of a class of which all fields hold what their defaults
give (`IsDefault`).  Classes of which an instance is being built are left out while its defaults are
built, and this loses nothing: an instance is larger than the defaults in it, so no default has an
instance of such a class in it (`gives_of_isDefault`).
-/

namespace XmlSettings.Schema

variable {classes others : Classes} {className : Text} {default : Default} {field : Field}
  {declared : List Field} {fields : List (Text × Value)} {given : Entries Text Value} {value other : Value}

/-! ## Fields by name -/

/-- Whether no key names two of the fields that values can be given for. -/
def HaveDistinctNames (fields : List Field) : Prop :=
  ((fields.filter (·.isSettable)).map fun field => normal field.name).Nodup

instance (fields : List Field) : Decidable (HaveDistinctNames fields) :=
  inferInstanceAs (Decidable (List.Nodup _))

theorem fieldsOf_of_distinct (known : classes.get? className = some declared)
    (distinct : HaveDistinctNames declared) : fieldsOf classes className =
      (declared.filter (·.isSettable)).map fun field => (normal field.name, field) := by
  rw [fieldsOf, known, Option.getD_some, settable]
  apply Entries.ofPairs_of_nodup
  rw [Entries.keys, List.map_map]
  exact distinct

theorem get?_fieldsOf_of_distinct (known : classes.get? className = some declared)
    (distinct : HaveDistinctNames declared) (member : field ∈ declared)
    (settable : field.isSettable = true) :
    (fieldsOf classes className).get? (normal field.name) = some field := by
  rw [fieldsOf_of_distinct known distinct]
  apply Entries.get?_of_mem
  · rw [Entries.keys, List.map_map]
    exact distinct
  · exact List.mem_map.2 ⟨field, List.mem_filter.2 ⟨member, settable⟩, rfl⟩

/-- What is found under a key is a field that the key names. -/
theorem of_get?_fieldsOf {key : Text} (known : classes.get? className = some declared)
    (distinct : HaveDistinctNames declared)
    (found : (fieldsOf classes className).get? (normal key) = some field) :
    field ∈ declared ∧ field.isSettable = true ∧ normal key = normal field.name := by
  rw [fieldsOf_of_distinct known distinct] at found
  obtain ⟨other, member, same⟩ := List.mem_map.1 (Entries.mem_of_get? found)
  obtain ⟨named, rfl⟩ := Prod.mk.inj same
  obtain ⟨member, settable⟩ := List.mem_filter.1 member
  exact ⟨member, settable, named.symm⟩

/-! ## What defaults give -/

mutual

/-- What a default gives. -/
inductive IsDefault (classes : Classes) : Default → Value → Prop where
  | value (v : Value) : IsDefault classes (.value v) v
  | record {className : Text} {declared : List Field} {fields : List (Text × Value)}
      (known : classes.get? className = some declared)
      (complete : ∀ field ∈ declared, field.isSettable = true → field.isRequired = false)
      (each : AreDefaults classes declared fields) :
      IsDefault classes (.instance className) (.record className fields)

/-- The fields of an instance for which nothing is given.  A field without a default, which has to be
    one that no value can be given for, is not there. -/
inductive AreDefaults (classes : Classes) : List Field → List (Text × Value) → Prop where
  | nil : AreDefaults classes [] []
  | absent {field : Field} {declared : List Field} {fields : List (Text × Value)}
      (required : field.isRequired = true) (more : AreDefaults classes declared fields) :
      AreDefaults classes (field :: declared) fields
  | held {field : Field} {value : Value} {declared : List Field} {fields : List (Text × Value)}
      (holds : IsDefault classes field.default value) (more : AreDefaults classes declared fields) :
      AreDefaults classes (field :: declared) ((field.name, value) :: fields)

end

theorem IsDefault.isRequired (holds : IsDefault classes field.default value) :
    field.isRequired = false := by
  unfold Field.isRequired
  cases given : field.default with
  | required =>
    rw [given] at holds
    cases holds
  | _ => rfl

mutual

/-- A default gives one value only. -/
theorem IsDefault.unique {default : Default} {first second : Value} :
    IsDefault classes default first → IsDefault classes default second → first = second
  | .value _, .value _ => rfl
  | .record known _ each, .record again _ same => by
    cases known.symm.trans again
    rw [each.unique same]

theorem AreDefaults.unique {declared : List Field} {first second : List (Text × Value)} :
    AreDefaults classes declared first → AreDefaults classes declared second → first = second
  | .nil, .nil => rfl
  | .absent _ more, .absent _ same => more.unique same
  | .absent required _, .held holds _ => by
    rw [holds.isRequired] at required
    cases required
  | .held holds _, .absent required _ => by
    rw [holds.isRequired] at required
    cases required
  | .held holds more, .held again same => by rw [holds.unique again, more.unique same]

end

/-- The value of a field with a default. -/
theorem AreDefaults.value_of_mem (values : AreDefaults classes declared fields)
    (member : field ∈ declared) (optional : field.isRequired = false) :
    ∃ value, (field.name, value) ∈ fields ∧ IsDefault classes field.default value := by
  induction declared generalizing fields with
  | nil => cases member
  | cons first rest ih =>
    cases values with
    | absent required more =>
      cases member with
      | head =>
        rw [optional] at required
        cases required
      | tail _ later => exact ih more later
    | held holds more =>
      cases member with
      | head => exact ⟨_, List.mem_cons_self, holds⟩
      | tail _ later =>
        obtain ⟨value, found, held⟩ := ih more later
        exact ⟨value, List.mem_cons_of_mem _ found, held⟩

theorem sizeOf_lt_of_field {name : Text} (member : (name, value) ∈ fields) :
    sizeOf value < sizeOf (Value.record className fields) := by
  have inside := List.sizeOf_lt_of_mem member
  simp only [Prod.mk.sizeOf_spec, Value.record.sizeOf_spec] at inside ⊢
  omega

/-! ## Building -/

theorem build_of_get? (known : classes.get? className = some declared) (given : Entries Text Value) :
    classes.build className given =
      if declared.any fun field => field.isSettable && field.isRequired && !given.hasKey field.name then
        .error .incomplete
      else
        match Classes.fieldValues (classes.erase className) given declared with
        | .ok values => .ok (.record className values)
        | .error e => .error e := by
  rw [Classes.build]
  split
  next unknown =>
    rw [known] at unknown
    cases unknown
  next found opened =>
    cases known.symm.trans opened
    rfl

/-- Whether values are given for all fields that have to be given. -/
def GivesRequired (given : Entries Text Value) (declared : List Field) : Prop :=
  ∀ field ∈ declared, field.isSettable = true → field.isRequired = true → given.hasKey field.name = true

theorem givesRequired_iff_any : GivesRequired given declared ↔
    (declared.any fun field => field.isSettable && field.isRequired && !given.hasKey field.name) = false := by
  simp [GivesRequired, List.any_eq_false]

/-- The value that is given for a field, if one may be given. -/
def Field.given? (field : Field) (given : Entries Text Value) : Option Value :=
  if field.isSettable then given.get? field.name else none

theorem given?_nil (field : Field) : field.given? [] = none := by
  unfold Field.given?
  split <;> rfl

theorem given?_of_isSettable (settable : field.isSettable = true) :
    field.given? given = given.get? field.name :=
  if_pos settable

theorem given?_eq_some_iff : field.given? given = some value ↔
    field.isSettable = true ∧ given.get? field.name = some value := by
  unfold Field.given?
  split
  next settable => simp [settable]
  next bare => simp [bare]

/-- Where all is given that has to be, nothing can be given for a field that needs a value and has none. -/
theorem isSettable_of_absent
    (complete : field.isSettable = true → field.isRequired = true → given.hasKey field.name = true)
    (missing : field.given? given = none) (required : field.isRequired = true) :
    field.isSettable = false := by
  rw [Bool.eq_false_iff]
  intro settable
  rw [given?_of_isSettable settable] at missing
  simpa [Entries.hasKey, missing] using complete settable required

/-- What a default gives where some classes are known. -/
inductive Gives (others : Classes) : Default → Value → Prop where
  | value (v : Value) : Gives others (.value v) v
  | built {className : Text} {v : Value} (done : others.build className [] = .ok v) :
      Gives others (.instance className) v

theorem Gives.isDefault (gives : Gives others default value)
    (records : ∀ className v, others.build className [] = .ok v →
      IsDefault classes (.instance className) v) : IsDefault classes default value := by
  cases gives with
  | value => exact .value value
  | built done => exact records _ _ done

theorem Gives.unique {first second : Value} (gives : Gives others default first)
    (too : Gives others default second) : first = second := by
  cases gives with
  | value =>
    cases too
    rfl
  | built done =>
    cases too with
    | built again =>
      cases done.symm.trans again
      rfl

theorem Gives.isRequired (gives : Gives others field.default value) : field.isRequired = false := by
  unfold Field.isRequired
  cases held : field.default with
  | required =>
    rw [held] at gives
    cases gives
  | _ => rfl

/-- How the values of fields come about: each is given, or else the default of the field gives it.  Where
    there is neither, the field is left out. -/
inductive AreFilled (others : Classes) (given : Entries Text Value) :
    List Field → List (Text × Value) → Prop where
  | nil : AreFilled others given [] []
  | given {field : Field} {declared : List Field} {value : Value} {fields : List (Text × Value)}
      (found : field.given? given = some value) (more : AreFilled others given declared fields) :
      AreFilled others given (field :: declared) ((field.name, value) :: fields)
  | held {field : Field} {declared : List Field} {value : Value} {fields : List (Text × Value)}
      (missing : field.given? given = none) (gives : Gives others field.default value)
      (more : AreFilled others given declared fields) :
      AreFilled others given (field :: declared) ((field.name, value) :: fields)
  | absent {field : Field} {declared : List Field} {fields : List (Text × Value)}
      (missing : field.given? given = none) (required : field.isRequired = true)
      (more : AreFilled others given declared fields) : AreFilled others given (field :: declared) fields

theorem areFilled_of_fieldValues (done : Classes.fieldValues others given declared = .ok fields) :
    AreFilled others given declared fields := by
  induction declared generalizing fields with
  | nil =>
    rw [Classes.fieldValues] at done
    cases done
    exact .nil
  | cons field rest ih =>
    rw [Classes.fieldValues, ← Field.given?] at done
    cases found : field.given? given with
    | some value =>
      rw [found] at done
      obtain ⟨more, later, same⟩ := bind_eq_ok.1 done
      cases same
      exact .given found (ih later)
    | none =>
      rw [found] at done
      cases default : field.default with
      | required =>
        rw [default] at done
        exact .absent found (by rw [Field.isRequired, default]) (ih done)
      | value v =>
        rw [default] at done
        obtain ⟨more, later, same⟩ := bind_eq_ok.1 done
        cases same
        exact .held found (default ▸ .value v) (ih later)
      | «instance» className =>
        rw [default] at done
        obtain ⟨v, built, done⟩ := bind_eq_ok.1 done
        obtain ⟨more, later, same⟩ := bind_eq_ok.1 done
        cases same
        exact .held found (default ▸ .built built) (ih later)

theorem fieldValues_of_areFilled (filled : AreFilled others given declared fields) :
    Classes.fieldValues others given declared = .ok fields := by
  induction filled with
  | nil => rw [Classes.fieldValues]
  | given found _ ih =>
    rw [Classes.fieldValues, ← Field.given?, found, ih]
    rfl
  | @held field _ _ _ missing gives _ ih =>
    rw [Classes.fieldValues, ← Field.given?, missing, ih]
    generalize field.default = default at gives
    cases gives with
    | value => rfl
    | built done =>
      simp only [done]
      rfl
  | @absent field _ _ missing required _ ih =>
    rw [Classes.fieldValues, ← Field.given?, missing, ih]
    unfold Field.isRequired at required
    split at required
    next default => rw [default]
    next => cases required

theorem fieldValues_eq_ok_iff : Classes.fieldValues others given declared = .ok fields ↔
    AreFilled others given declared fields :=
  ⟨areFilled_of_fieldValues, fieldValues_of_areFilled⟩

/-- What is built is a record of values for the fields of a known class. -/
theorem build_eq_ok_iff : classes.build className given = .ok value ↔
    ∃ declared fields, classes.get? className = some declared ∧
      GivesRequired given declared ∧ AreFilled (classes.erase className) given declared fields ∧
      value = .record className fields := by
  constructor
  · intro built
    cases known : classes.get? className with
    | none =>
      rw [Classes.build] at built
      split at built
      next => cases built
      next found opened =>
        rw [known] at opened
        cases opened
    | some declared =>
      rw [build_of_get? known] at built
      split at built
      next => cases built
      next complete =>
        split at built
        next fields done =>
          cases built
          exact ⟨declared, fields, rfl, givesRequired_iff_any.2 (Bool.eq_false_iff.2 complete),
            fieldValues_eq_ok_iff.1 done, rfl⟩
        next => cases built
  · rintro ⟨declared, fields, known, complete, filled, rfl⟩
    rw [build_of_get? known, givesRequired_iff_any.1 complete, fieldValues_eq_ok_iff.2 filled]
    rfl

/-! ## Leaving out classes -/

/-- Whether classes are some of those that there are. -/
def AreAmong (others classes : Classes) : Prop :=
  ∀ className declared, others.get? className = some declared → classes.get? className = some declared

theorem AreAmong.erase (among : AreAmong others classes) (className : Text) :
    AreAmong (others.erase className) classes := by
  intro name declared found
  rw [Entries.get?_erase] at found
  split at found
  next => cases found
  next => exact among name declared found

theorem AreFilled.areDefaults (filled : AreFilled others [] declared fields)
    (records : ∀ className v, others.build className [] = .ok v →
      IsDefault classes (.instance className) v) : AreDefaults classes declared fields := by
  induction filled with
  | nil => exact .nil
  | given found =>
    rw [given?_nil] at found
    cases found
  | held _ gives _ ih => exact .held (gives.isDefault records) ih
  | absent _ required _ ih => exact .absent required ih

/-- What is built for nothing given is what defaults give. -/
theorem isDefault_of_build {others : Classes} {className : Text} {value : Value}
    (among : AreAmong others classes) (built : others.build className [] = .ok value) :
    IsDefault classes (.instance className) value := by
  obtain ⟨declared, fields, known, complete, filled, rfl⟩ := build_eq_ok_iff.1 built
  have := Entries.erase_length_lt known
  apply IsDefault.record (among className declared known)
  · intro field member settable
    rw [Bool.eq_false_iff]
    intro required
    cases complete field member settable required
  · exact filled.areDefaults fun _ _ => isDefault_of_build (among.erase className)
termination_by others.length

theorem Gives.isDefault_erase (gives : Gives (classes.erase className) default value) :
    IsDefault classes default value := by
  apply gives.isDefault
  intro inner v
  apply isDefault_of_build
  exact AreAmong.erase (fun _ _ found => found) className

/-- Whether all classes are known but those whose default instances are larger than a value. -/
def Spares (others classes : Classes) (size : Nat) : Prop :=
  ∀ className, others.get? className = classes.get? className ∨
    ∀ v, IsDefault classes (.instance className) v → size < sizeOf v

theorem Spares.mono {size smaller : Nat} (spares : Spares others classes size) (le : smaller ≤ size) :
    Spares others classes smaller := fun className =>
  (spares className).imp_right fun larger v holds => Nat.lt_of_le_of_lt le (larger v holds)

/-- A class may be left out while the fields of its default instance are built. -/
theorem Spares.erase (spares : Spares others classes (sizeOf (Value.record className fields)))
    (holds : IsDefault classes (.instance className) (.record className fields)) :
    Spares (others.erase className) classes (sizeOf fields) := by
  have inside : sizeOf fields < sizeOf (Value.record className fields) := by
    rw [Value.record.sizeOf_spec]
    omega
  intro name
  rw [Entries.get?_erase]
  by_cases same : name = className
  · right
    intro v again
    subst same
    cases holds.unique again
    exact inside
  · rw [if_neg same]
    exact spares.mono (Nat.le_of_lt inside) name

mutual

/-- What a default gives is built. -/
theorem gives_of_isDefault {default : Default} {value : Value} {others : Classes} :
    IsDefault classes default value → Spares others classes (sizeOf value) → Gives others default value
  | .value v, _ => .value v
  | @IsDefault.record _ className declared fields known complete each, spares => by
    have holds := IsDefault.record known complete each
    -- A class that is left out has larger instances than this one.
    have found : others.get? className = some declared := by
      rcases spares className with same | larger
      · exact same.trans known
      · exact absurd (larger _ holds) (Nat.lt_irrefl _)
    refine .built (build_eq_ok_iff.2 ⟨declared, fields, found, ?_, ?_, rfl⟩)
    · intro field member settable required
      rw [complete field member settable] at required
      cases required
    · exact areFilled_of_areDefaults each (spares.erase holds)

theorem areFilled_of_areDefaults {declared : List Field} {fields : List (Text × Value)}
    {others : Classes} : AreDefaults classes declared fields → Spares others classes (sizeOf fields) →
      AreFilled others [] declared fields
  | .nil, _ => .nil
  | .absent required more, spares => .absent (given?_nil _) required (areFilled_of_areDefaults more spares)
  | @AreDefaults.held _ field value _ rest holds more, spares => by
    have smaller : sizeOf value ≤ sizeOf ((field.name, value) :: rest) ∧
        sizeOf rest ≤ sizeOf ((field.name, value) :: rest) := by
      simp only [List.cons.sizeOf_spec, Prod.mk.sizeOf_spec]
      omega
    exact .held (given?_nil _) (gives_of_isDefault holds (spares.mono smaller.1))
      (areFilled_of_areDefaults more (spares.mono smaller.2))

end

/-- What the default of a field gives is built also where the class of the field is left out. -/
theorem gives_erase (known : classes.get? className = some declared) (member : field ∈ declared)
    (holds : IsDefault classes field.default value) :
    Gives (classes.erase className) field.default value := by
  apply gives_of_isDefault holds
  intro name
  rw [Entries.get?_erase]
  by_cases same : name = className
  · right
    intro v record
    subst same
    cases record with
    | record again _ each =>
      cases known.symm.trans again
      obtain ⟨again, found, held⟩ := each.value_of_mem member holds.isRequired
      rw [holds.unique held]
      exact sizeOf_lt_of_field found
  · left
    rw [if_neg same]

end XmlSettings.Schema
