import XmlSettings.Proofs.Schema.Layers
import XmlSettings.Proofs.Schema.Pointwise

/-! # Strict settings

Conversion can be turned off, and keys that name no field can be refused.  Where every union has one
member besides `nothing` at most, neither changes what is decoded: the decoder tries no other member when
a value is refused, so what is decoded under strict settings is decoded in the same way under the
standard ones (`isCarried`).
-/

namespace XmlSettings.Schema

variable {classes : Classes} {settings strict : Settings} {className key : Text} {declared : List Field}
  {field : Field} {path : Path} {raw value inner result : Value} {hint wanted : Hint} {spelling : Spelling}
  {entries values fields : List (Text × Value)} {items : List Value} {members : List Hint}

/-! ## Unions without a choice -/

namespace Hint

mutual

/-- Whether every union in a type has one member besides `nothing` at most. -/
def isDecided : Hint → Bool
  | list _ item => isDecided item
  | table _ value => isDecided value
  | union _ members =>
    decide ((members.filter fun member => !member.isNothing).length ≤ 1) && areDecided members
  | _ => true
termination_by structural hint => hint

def areDecided : List Hint → Bool
  | [] => true
  | hint :: rest => isDecided hint && areDecided rest
termination_by structural hints => hints

end

theorem areDecided_iff : areDecided members = true ↔ ∀ member ∈ members, member.isDecided = true := by
  induction members with
  | nil => simp [areDecided]
  | cons member rest ih => simp [areDecided, ih]

theorem isDecided_union : (union spelling members).isDecided = true ↔
    (members.filter fun member => !member.isNothing).length ≤ 1 ∧
      ∀ member ∈ members, member.isDecided = true := by
  rw [isDecided, Bool.and_eq_true, decide_eq_true_iff, areDecided_iff]

/-- The only member besides `nothing`. -/
theorem eq_of_single {first second : Hint}
    (single : (members.filter fun member => !member.isNothing).length ≤ 1)
    (firstInside : first ∈ members) (isFirst : first.isNothing = false)
    (secondInside : second ∈ members) (isSecond : second.isNothing = false) : first = second := by
  have firstKept : first ∈ members.filter fun member => !member.isNothing :=
    List.mem_filter.2 ⟨firstInside, by simp [isFirst]⟩
  have secondKept : second ∈ members.filter fun member => !member.isNothing :=
    List.mem_filter.2 ⟨secondInside, by simp [isSecond]⟩
  obtain ⟨only, same⟩ := List.length_eq_one_iff.1
    (Nat.le_antisymm single (List.length_pos_of_mem firstKept))
  rw [same, List.mem_singleton] at firstKept secondKept
  rw [firstKept, secondKept]

end Hint

/-- Whether no type of a field leaves a choice. -/
def Classes.AreDecided (classes : Classes) : Prop :=
  ∀ entry ∈ classes, ∀ field ∈ entry.2, field.hint.isDecided = true

theorem Classes.AreDecided.of_named (decided : classes.AreDecided)
    (named : (fieldsOf classes className).get? key = some field) : field.hint.isDecided = true := by
  obtain ⟨_, _, declared, known, member⟩ := of_get?_settable named
  exact decided _ (Entries.mem_of_get? known) field member

theorem decodeMember_of_nothing {whole : Hint} {errors : List DecodeError}
    (none : ∀ member ∈ members, member.isNothing = true) :
    decodeMember classes settings path raw whole errors members =
      Run.reject (.noMember path whole errors.reverse) := by
  induction members with
  | nil => rw [decodeMember]
  | cons member rest ih =>
    obtain ⟨first, more⟩ := List.forall_mem_cons.1 none
    rw [decodeMember_cons, if_pos first, ih more]

/-- The only member besides `nothing` decides over the union. -/
theorem decodeMember_eq_ok_iff {whole : Hint} {errors : List DecodeError}
    (single : (members.filter fun member => !member.isNothing).length ≤ 1) :
    (decodeMember classes settings path raw whole errors members).result = .ok value ↔
      ∃ member ∈ members, member.isNothing = false ∧
        (decodeValue classes settings path raw member).result = .ok value := by
  induction members with
  | nil =>
    rw [decodeMember]
    constructor
    · intro done
      cases done
    · rintro ⟨_, member, _⟩
      cases member
  | cons member rest ih =>
    rw [decodeMember_cons]
    cases isNothing : member.isNothing with
    | true =>
      rw [List.filter_cons_of_neg (by simp [isNothing])] at single
      rw [if_pos rfl, ih single]
      simp [isNothing]
    | false =>
      rw [List.filter_cons_of_pos (by simp [isNothing]), List.length_cons] at single
      have none : ∀ other ∈ rest, other.isNothing = true := by
        have empty := List.eq_nil_of_length_eq_zero (Nat.le_zero.1 (Nat.le_of_succ_le_succ single))
        simpa [List.filter_eq_nil_iff] using empty
      rw [if_neg Bool.false_ne_true]
      have only : (∃ other ∈ member :: rest, other.isNothing = false ∧
          (decodeValue classes settings path raw other).result = .ok value) ↔
            (decodeValue classes settings path raw member).result = .ok value := by
        constructor
        · rintro ⟨other, inside, isType, done⟩
          cases inside with
          | head => exact done
          | tail _ later => simp [none other later] at isType
        · exact fun done => ⟨member, List.mem_cons_self, isNothing, done⟩
      rw [only, Run.orElseRejected]
      split
      next rejected =>
        rw [decodeMember_of_nothing none, rejected]
        constructor <;> intro done <;> cases done
      next => rfl

/-- A union without a choice stands for its member. -/
theorem decodeValue_union_iff {member : Hint} (decided : (Hint.union spelling members).isDecided = true)
    (inside : member ∈ members) (isType : member.isNothing = false)
    (filled : raw = .nothing → members.any Hint.isNothing = false) :
    (decodeValue classes settings path raw (.union spelling members)).result = .ok value ↔
      (decodeValue classes settings path raw member).result = .ok value := by
  obtain ⟨single, _⟩ := Hint.isDecided_union.1 decided
  rw [decodeValue_union_of_filled filled, decodeMember_eq_ok_iff single]
  constructor
  · rintro ⟨other, found, isOther, done⟩
    cases Hint.eq_of_single single inside isType found isOther
    exact done
  · exact fun done => ⟨member, inside, isType, done⟩

/-! ## One value after the other -/

/-- Whether what is decoded under some settings is decoded in the same way under others. -/
def IsCarried (classes : Classes) (strict settings : Settings) (raw : Value) (hint : Hint) : Prop :=
  ∀ path value, (decodeValue classes strict path raw hint).result = .ok value →
    (decodeValue classes settings path raw hint).result = .ok value

theorem decodeItems_of_each {i : Nat} {results : List Value}
    (each : ∀ item ∈ items, IsCarried classes strict settings item hint)
    (done : (decodeItems classes strict path i items hint).result = .ok results) :
    (decodeItems classes settings path i items hint).result = .ok results := by
  induction items generalizing i results with
  | nil =>
    rw [decodeItems] at done ⊢
    exact done
  | cons item rest ih =>
    obtain ⟨first, more⟩ := List.forall_mem_cons.1 each
    rw [decodeItems, Run.result_bind_eq_ok] at done ⊢
    obtain ⟨value, here, done⟩ := done
    obtain ⟨others, later, same⟩ := Run.result_map_eq_ok.1 done
    exact ⟨value, first _ _ here, Run.result_map_eq_ok.2 ⟨others, ih more later, same⟩⟩

theorem decodeEntries_of_each {results : List (Text × Value)}
    (each : ∀ key raw, (key, raw) ∈ entries → IsCarried classes strict settings raw hint)
    (done : (decodeEntries classes strict path entries hint).result = .ok results) :
    (decodeEntries classes settings path entries hint).result = .ok results := by
  induction entries generalizing results with
  | nil =>
    rw [decodeEntries] at done ⊢
    exact done
  | cons entry rest ih =>
    obtain ⟨key, raw⟩ := entry
    rw [decodeEntries, Run.result_bind_eq_ok] at done ⊢
    obtain ⟨value, here, done⟩ := done
    obtain ⟨others, later, same⟩ := Run.result_map_eq_ok.1 done
    have rest := ih (fun key raw member => each key raw (List.mem_cons_of_mem _ member)) later
    exact ⟨value, each key raw List.mem_cons_self _ _ here, Run.result_map_eq_ok.2 ⟨others, rest, same⟩⟩

theorem AreDecoded.of_each (decoded : AreDecoded classes strict path className entries values)
    (passed : settings.rejectUnused = true →
      ∀ key ∈ Entries.keys entries, (fieldsOf classes className).get? (normal key) ≠ none)
    (each : ∀ key raw field, (key, raw) ∈ entries →
      (fieldsOf classes className).get? (normal key) = some field →
        IsCarried classes strict settings raw field.hint) :
    AreDecoded classes settings path className entries values := by
  induction decoded with
  | nil => exact .nil
  | passed unnamed _ _ ih =>
    have allowed : settings.rejectUnused = false := by
      rw [Bool.eq_false_iff]
      exact fun refused => passed refused _ List.mem_cons_self unnamed
    exact .passed unnamed allowed
      (ih (fun refused key member => passed refused key (List.mem_cons_of_mem _ member))
        fun key raw field member => each key raw field (List.mem_cons_of_mem _ member))
  | taken named decoded _ ih =>
    exact .taken named (each _ _ _ List.mem_cons_self named _ _ decoded)
      (ih (fun refused key member => passed refused key (List.mem_cons_of_mem _ member))
        fun key raw field member => each key raw field (List.mem_cons_of_mem _ member))

/-! ## Places in a value -/

/-- Whether a key names a field of a class that values can be given for. -/
def NamesField (classes : Classes) (className key : Text) : Prop :=
  ∃ declared field, classes.get? className = some declared ∧ field ∈ declared ∧
    field.isSettable = true ∧ normal key = normal field.name

theorem namesField_iff :
    NamesField classes className key ↔ (fieldsOf classes className).get? (normal key) ≠ none := by
  constructor
  · rintro ⟨declared, field, known, member, settable, same⟩
    rw [ne_eq, Entries.get?_eq_none_iff, not_not, fieldsOf, known, Schema.settable,
      Entries.mem_keys_ofPairs, same]
    exact List.mem_map.2 ⟨_, List.mem_map.2 ⟨field, List.mem_filter.2 ⟨member, settable⟩, rfl⟩, rfl⟩
  · intro found
    obtain ⟨field, named⟩ := Option.ne_none_iff_exists'.1 found
    obtain ⟨same, settable, declared, known, member⟩ := of_get?_settable named
    exact ⟨declared, field, known, member, settable, same.symm⟩

/-- Where values stand in a value that is read as a type, each with the type that it is read as. -/
inductive IsPlace (classes : Classes) : Hint → Value → Hint → Value → Prop where
  | here (hint : Hint) (raw : Value) : IsPlace classes hint raw hint raw
  | member {spelling : Spelling} {members : List Hint} {member wanted : Hint} {raw inner : Value}
      (inside : member ∈ members) (isType : member.isNothing = false)
      (filled : raw = .nothing → members.any Hint.isNothing = false)
      (deeper : IsPlace classes member raw wanted inner) :
      IsPlace classes (.union spelling members) raw wanted inner
  | item {spelling : Spelling} {hint wanted : Hint} {items : List Value} {item inner : Value}
      (inside : item ∈ items) (deeper : IsPlace classes hint item wanted inner) :
      IsPlace classes (.list spelling hint) (.list items) wanted inner
  | only {spelling : Spelling} {hint wanted : Hint} {raw inner : Value}
      (single : ∀ items, raw ≠ .list items) (deeper : IsPlace classes hint raw wanted inner) :
      IsPlace classes (.list spelling hint) raw wanted inner
  | entry {spelling : Spelling} {hint wanted : Hint} {entries : List (Text × Value)} {key : Text}
      {raw inner : Value} (inside : (key, raw) ∈ entries)
      (deeper : IsPlace classes hint raw wanted inner) :
      IsPlace classes (.table spelling hint) (.table entries) wanted inner
  | field {className : Text} {wanted : Hint} {entries : List (Text × Value)} {key : Text}
      {field : Field} {raw inner : Value} (inside : (key, raw) ∈ entries)
      (named : (fieldsOf classes className).get? (normal key) = some field)
      (deeper : IsPlace classes field.hint raw wanted inner) :
      IsPlace classes (.record className) (.table entries) wanted inner

/-- Whether all keys of tables that are read as instances of classes name fields. -/
def KeysNameFields (classes : Classes) (hint : Hint) (raw : Value) : Prop :=
  ∀ className entries, IsPlace classes hint raw (.record className) (.table entries) →
    ∀ key ∈ Entries.keys entries, NamesField classes className key

theorem isCarried_union (isDecided : (Hint.union spelling members).isDecided = true)
    (each : (raw = .nothing → members.any Hint.isNothing = false) →
      ∀ member ∈ members, member.isNothing = false → IsCarried classes strict settings raw member) :
    IsCarried classes strict settings raw (.union spelling members) := by
  intro path value done
  obtain ⟨single, _⟩ := Hint.isDecided_union.1 isDecided
  by_cases filled : raw = .nothing → members.any Hint.isNothing = false
  · rw [decodeValue_union_of_filled filled, decodeMember_eq_ok_iff single] at done ⊢
    obtain ⟨member, inside, isType, done⟩ := done
    exact ⟨member, inside, isType, each filled member inside isType path value done⟩
  · simp only [Classical.not_imp, Bool.not_eq_false] at filled
    obtain ⟨rfl, some⟩ := filled
    rw [decodeValue_union_nothing some] at done ⊢
    exact done

theorem isCarried_list
    (each : ∀ items, raw = .list items → ∀ item ∈ items, IsCarried classes strict settings item hint)
    (only : (∀ items, raw ≠ .list items) → IsCarried classes strict settings raw hint) :
    IsCarried classes strict settings raw (.list spelling hint) := by
  intro path value done
  by_cases several : ∃ items, raw = .list items
  · obtain ⟨items, rfl⟩ := several
    rw [decodeValue_items, Run.result_map_eq_ok] at done ⊢
    obtain ⟨results, done, same⟩ := done
    exact ⟨results, decodeItems_of_each (each items rfl) done, same⟩
  · have single : ∀ items, raw ≠ .list items := fun items same => several ⟨items, same⟩
    rw [decodeValue_only single, Run.result_map_eq_ok] at done ⊢
    obtain ⟨value, done, same⟩ := done
    exact ⟨value, only single _ _ done, same⟩

theorem isCarried_table (each : ∀ entries, raw = .table entries →
      ∀ key inner, (key, inner) ∈ entries → IsCarried classes strict settings inner hint) :
    IsCarried classes strict settings raw (.table spelling hint) := by
  intro path value done
  cases raw with
  | table entries =>
    rw [decodeValue_entries, Run.result_map_eq_ok] at done ⊢
    obtain ⟨results, done, same⟩ := done
    exact ⟨results, decodeEntries_of_each (each entries rfl) done, same⟩
  | _ =>
    rw [decodeValue] at done
    · cases done
    · exact nofun

theorem isCarried_record
    (passed : settings.rejectUnused = true → ∀ entries, raw = .table entries →
      ∀ key ∈ Entries.keys entries, NamesField classes className key)
    (each : ∀ entries, raw = .table entries → ∀ key inner field, (key, inner) ∈ entries →
      (fieldsOf classes className).get? (normal key) = some field →
        IsCarried classes strict settings inner field.hint) :
    IsCarried classes strict settings raw (.record className) := by
  intro path value done
  obtain ⟨entries, values, declared, fields, rfl, decoded, built⟩ := decodeValue_record_eq_ok_iff.1 done
  have carried := decoded.of_each
    (fun refused key member => namesField_iff.1 (passed refused entries rfl key member)) (each entries rfl)
  exact decodeValue_record_eq_ok_iff.2 ⟨entries, values, declared, fields, rfl, carried, built⟩

/-- What is decoded under strict settings is decoded in the same way under other settings, if these take
    the same scalars and do not refuse a key. -/
theorem isCarried (decided : classes.AreDecided)
    (scalars : ∀ path raw type value, (decodeScalar strict path raw type).result = .ok value →
      (decodeScalar settings path raw type).result = .ok value)
    (raw : Value) (hint : Hint) (isDecided : hint.isDecided = true)
    (keys : settings.rejectUnused = true → KeysNameFields classes hint raw) :
    IsCarried classes strict settings raw hint := by
  cases hint with
  | any | unchecked | plain =>
    intro path value done
    rw [decodeValue] at done ⊢
    exact done
  | scalar type =>
    intro path value done
    rw [decodeValue_scalar] at done ⊢
    exact scalars path raw type value done
  | union spelling members =>
    refine isCarried_union isDecided fun filled member inside isType => ?_
    exact isCarried decided scalars raw member ((Hint.isDecided_union.1 isDecided).2 member inside)
      fun refused name entries place => keys refused name entries (.member inside isType filled place)
  | list spelling item =>
    refine isCarried_list (fun items same inner inside => ?_) fun single => ?_
    · subst same
      have := Value.sizeOf_lt_of_item inside
      exact isCarried decided scalars inner item isDecided
        fun refused name entries place => keys refused name entries (.item inside place)
    · exact isCarried decided scalars raw item isDecided
        fun refused name entries place => keys refused name entries (.only single place)
  | table spelling hint =>
    refine isCarried_table fun entries same key inner inside => ?_
    subst same
    have := Value.sizeOf_lt_of_entry inside
    exact isCarried decided scalars inner hint isDecided
      fun refused name entries place => keys refused name entries (.entry inside place)
  | record className =>
    refine isCarried_record (fun refused entries same key member => ?_)
      fun entries same key inner field inside named => ?_
    · subst same
      exact keys refused className entries (.here _ _) key member
    · subst same
      have := Value.sizeOf_lt_of_entry inside
      exact isCarried decided scalars inner field.hint (decided.of_named named)
        fun refused name entries place => keys refused name entries (.field inside named place)
-- For the members of a union and a single item the value stays, and the type gets smaller.
termination_by (sizeOf raw, sizeOf hint)

/-! ## What is decoded at places -/

/-- Where a value is decoded, so is what stands at each place in it. -/
theorem IsPlace.exists_decoded (decided : classes.AreDecided)
    (place : IsPlace classes hint raw wanted inner) (isDecided : hint.isDecided = true)
    (done : (decodeValue classes settings path raw hint).result = .ok value) :
    ∃ path value, (decodeValue classes settings path inner wanted).result = .ok value := by
  induction place generalizing path value with
  | here => exact ⟨path, value, done⟩
  | member inside isType filled _ ih =>
    exact ih ((Hint.isDecided_union.1 isDecided).2 _ inside)
      ((decodeValue_union_iff isDecided inside isType filled).1 done)
  | item inside _ ih =>
    rw [decodeValue_items, Run.result_map_eq_ok] at done
    obtain ⟨results, done, _⟩ := done
    obtain ⟨_, _, path, done⟩ := exists_of_forall₂ (forall₂_of_decodeItems done) inside
    exact ih isDecided done
  | only single _ ih =>
    rw [decodeValue_only single, Run.result_map_eq_ok] at done
    obtain ⟨_, done, _⟩ := done
    exact ih isDecided done
  | entry inside _ ih =>
    rw [decodeValue_entries, Run.result_map_eq_ok] at done
    obtain ⟨results, done, _⟩ := done
    obtain ⟨_, _, _, path, done⟩ := exists_of_forall₂ (forall₂_of_decodeEntries done) inside
    exact ih isDecided done
  | field inside named _ ih =>
    obtain ⟨_, values, _, _, same, decoded, _⟩ := decodeValue_record_eq_ok_iff.1 done
    cases same
    have accepted := decoded.isAccepted inside
    rw [IsAccepted, named] at accepted
    obtain ⟨value, done⟩ := accepted
    exact ih (decided.of_named named) done

/-- Where the values that fill an instance stand, in the data and in the instance. -/
inductive Fills (classes : Classes) : Hint → Value → Value → Hint → Value → Value → Prop where
  | here (hint : Hint) (raw value : Value) : Fills classes hint raw value hint raw value
  | member {spelling : Spelling} {members : List Hint} {member wanted : Hint}
      {raw value inner result : Value} (inside : member ∈ members) (isType : member.isNothing = false)
      (filled : raw = .nothing → members.any Hint.isNothing = false)
      (deeper : Fills classes member raw value wanted inner result) :
      Fills classes (.union spelling members) raw value wanted inner result
  | item {spelling : Spelling} {hint wanted : Hint} {items values : List Value}
      {item value inner result : Value} (inside : (item, value) ∈ items.zip values)
      (deeper : Fills classes hint item value wanted inner result) :
      Fills classes (.list spelling hint) (.list items) (.list values) wanted inner result
  | only {spelling : Spelling} {hint wanted : Hint} {raw value inner result : Value}
      (single : ∀ items, raw ≠ .list items) (deeper : Fills classes hint raw value wanted inner result) :
      Fills classes (.list spelling hint) raw (.list [value]) wanted inner result
  | entry {spelling : Spelling} {hint wanted : Hint} {entries values : List (Text × Value)}
      {key name : Text} {raw value inner result : Value}
      (inside : ((key, raw), (name, value)) ∈ entries.zip values)
      (deeper : Fills classes hint raw value wanted inner result) :
      Fills classes (.table spelling hint) (.table entries) (.table values) wanted inner result
  | field {className : Text} {wanted : Hint} {entries fields : List (Text × Value)} {field : Field}
      {raw value inner result : Value}
      (named : (fieldsOf classes className).get? (normal field.name) = some field)
      (last : lastNamed field.name entries = some raw)
      (held : Entries.get? fields field.name = some value)
      (deeper : Fills classes field.hint raw value wanted inner result) :
      Fills classes (.record className) (.table entries) (.record className fields) wanted inner result

/-- What stands at a place in an instance was decoded from what stands there in the data. -/
theorem Fills.exists_decoded (decided : classes.AreDecided) (own : classes.HaveDistinctFields)
    (fills : Fills classes hint raw value wanted inner result) (isDecided : hint.isDecided = true)
    (done : (decodeValue classes settings path raw hint).result = .ok value) :
    ∃ path, (decodeValue classes settings path inner wanted).result = .ok result := by
  induction fills generalizing path with
  | here => exact ⟨path, done⟩
  | member inside isType filled _ ih =>
    exact ih ((Hint.isDecided_union.1 isDecided).2 _ inside)
      ((decodeValue_union_iff isDecided inside isType filled).1 done)
  | item inside _ ih =>
    rw [decodeValue_items, Run.result_map_eq_ok] at done
    obtain ⟨results, done, same⟩ := done
    cases same
    obtain ⟨path, done⟩ := List.forall₂_zip (forall₂_of_decodeItems done) inside
    exact ih isDecided done
  | only single _ ih =>
    rw [decodeValue_only single, Run.result_map_eq_ok] at done
    obtain ⟨_, done, same⟩ := done
    cases same
    exact ih isDecided done
  | entry inside _ ih =>
    rw [decodeValue_entries, Run.result_map_eq_ok] at done
    obtain ⟨results, done, same⟩ := done
    cases same
    obtain ⟨_, path, done⟩ := List.forall₂_zip (forall₂_of_decodeEntries done) inside
    exact ih isDecided done
  | field named last held _ ih =>
    obtain ⟨_, values, declared, _, same, decoded, known, _, filled, built⟩ :=
      decodeValue_record_eq_ok_iff.1 done
    cases same
    cases built
    obtain ⟨_, settable, _, again, member⟩ := of_get?_settable named
    cases known.symm.trans again
    obtain ⟨value, done, found⟩ := decoded.get?_of_lastNamed named last
    cases held.symm.trans (filled.get?_of_given (own.of_get? known) member settable found)
    exact ih (decided.of_named named) done

/-! ## Scalars -/

theorem decodeScalar_congr (same : strict.convert = settings.convert) (type : Scalar) :
    decodeScalar strict path raw type = decodeScalar settings path raw type := by
  unfold decodeScalar
  rw [same]

/-- Without conversion a scalar is of the wanted type as it is. -/
theorem decodeScalar_of_unconverted {type : Scalar} (unconverted : settings.convert = false)
    (done : (decodeScalar settings path raw type).result = .ok value) :
    type.accepts raw = true ∧ value = raw := by
  unfold decodeScalar at done
  split at done
  next accepted =>
    cases done
    exact ⟨accepted, rfl⟩
  next =>
    rw [unconverted, Bool.not_false, Bool.or_true, if_pos rfl] at done
    cases done

theorem decodeScalar_standard {type : Scalar}
    (done : (decodeScalar settings path raw type).result = .ok value) :
    (decodeScalar .standard path raw type).result = .ok value := by
  cases converts : settings.convert with
  | true =>
    have same : decodeScalar settings path raw type = decodeScalar .standard path raw type :=
      decodeScalar_congr converts type
    exact same ▸ done
  | false =>
    obtain ⟨accepted, rfl⟩ := decodeScalar_of_unconverted converts done
    unfold decodeScalar
    rw [if_pos accepted]
    rfl

/-! ## Strict settings -/

/-- Refusing unused keys refuses exactly the data with a key that names no field. -/
theorem decodeValue_rejectUnused_iff (decided : classes.AreDecided) (isDecided : hint.isDecided = true)
    (convert : Bool) :
    (decodeValue classes ⟨convert, true⟩ path raw hint).result = .ok value ↔
      (decodeValue classes ⟨convert, false⟩ path raw hint).result = .ok value ∧
        KeysNameFields classes hint raw := by
  have scalars (strict settings : Bool) : ∀ path raw type value,
      (decodeScalar ⟨convert, strict⟩ path raw type).result = .ok value →
        (decodeScalar ⟨convert, settings⟩ path raw type).result = .ok value := by
    intro path raw type value done
    have same : decodeScalar ⟨convert, strict⟩ path raw type =
        decodeScalar ⟨convert, settings⟩ path raw type :=
      decodeScalar_congr rfl type
    exact same ▸ done
  constructor
  · intro done
    refine ⟨isCarried decided (scalars true false) raw hint isDecided nofun path value done, ?_⟩
    intro className entries place key member
    obtain ⟨path, value, done⟩ := place.exists_decoded decided isDecided done
    obtain ⟨_, values, _, _, same, decoded, _⟩ := decodeValue_record_eq_ok_iff.1 done
    cases same
    obtain ⟨⟨_, raw⟩, inside, rfl⟩ := List.mem_map.1 member
    rw [namesField_iff]
    intro unnamed
    have accepted := decoded.isAccepted inside
    rw [IsAccepted, unnamed] at accepted
    cases accepted
  · rintro ⟨done, keys⟩
    exact isCarried decided (scalars false true) raw hint isDecided (fun _ => keys) path value done

/-- What is decoded under any settings is decoded to the same instance under the standard ones.  Where
    unused keys are refused, these are the only reason that anything fails besides, and where nothing is
    converted, every scalar is held as it is given. -/
theorem strict_only_rejects (decided : classes.AreDecided) (own : classes.HaveDistinctFields)
    (className : Text) (raw : Value) :
    (∀ settings value, (decode classes settings (.fresh className) raw).result = .ok value →
      (decode classes .standard (.fresh className) raw).result = .ok value) ∧
    (∀ convert, (∃ value, (decode classes ⟨convert, true⟩ (.fresh className) raw).result = .ok value) ↔
      (∃ value, (decode classes ⟨convert, false⟩ (.fresh className) raw).result = .ok value) ∧
        KeysNameFields classes (.record className) raw) ∧
    ∀ rejectUnused value, (decode classes ⟨false, rejectUnused⟩ (.fresh className) raw).result = .ok value →
      ∀ type inner held, Fills classes (.record className) raw value (.scalar type) inner held →
        held = inner := by
  have isDecided : (Hint.record className).isDecided = true := rfl
  refine ⟨fun settings value => ?_, fun convert => ?_, fun rejectUnused value done type inner held fills => ?_⟩
  · exact isCarried decided (fun _ _ _ _ => decodeScalar_standard) raw _ isDecided nofun [] value
  · rw [← exists_and_right]
    exact exists_congr fun value => decodeValue_rejectUnused_iff decided isDecided convert
  · obtain ⟨path, done⟩ := fills.exists_decoded decided own isDecided done
    rw [decodeValue_scalar] at done
    exact (decodeScalar_of_unconverted rfl done).2

set_option maxRecDepth 1000 in
/-- A server with a backup, where a key of the backup names no field. -/
theorem strict_only_rejects_server :
    let own : Hint := .union .long [.record "Server", .nothing]
    let classes : Classes := [("Server", [⟨"host", .scalar .text, .required, true⟩,
      ⟨"ports", .list .long (.scalar .integer), .value (.list []), true⟩,
      ⟨"backup", own, .value .nothing, true⟩])]
    let raw := Value.table [("HOST", .text "a"), ("ports", .integer 80),
      ("backup", .table [("host", .text "b"), ("name", .text "c")])]
    let server := Value.record "Server" [("host", .text "a"), ("ports", .list [.integer 80]), ("backup",
      .record "Server" [("host", .text "b"), ("ports", .list []), ("backup", .nothing)])]
    let decoded (settings : Settings) := (decode classes settings (.fresh "Server") raw).result
    decoded ⟨false, false⟩ = .ok server ∧ decoded .standard = .ok server ∧
      (¬∃ value, decoded ⟨false, true⟩ = .ok value) ∧
      ∀ held, Fills classes (.record "Server") raw server (.scalar .integer) (.integer 80) held →
        held = .integer 80 := by
  intro own classes raw server decoded
  have decided : classes.AreDecided := by
    unfold Classes.AreDecided
    decide
  have distinct : classes.HaveDistinctFields := by
    unfold Classes.HaveDistinctFields
    decide
  have done : decoded ⟨false, false⟩ = .ok server := by
    simp only [decoded, raw, classes, own, server]
    cbv
  obtain ⟨standard, unused, unconverted⟩ := strict_only_rejects decided distinct "Server" raw
  refine ⟨done, standard _ _ done, fun strict => ?_, fun held => unconverted false _ done _ _ held⟩
  have named : (fieldsOf classes "Server").get? (normal "backup") =
      some ⟨"backup", own, .value .nothing, true⟩ := by
    simp only [classes, own]
    cbv
  have inside : IsPlace classes own (.table [("host", .text "b"), ("name", .text "c")]) (.record "Server")
      (.table [("host", .text "b"), ("name", .text "c")]) := by
    refine .member List.mem_cons_self rfl (fun same => ?_) (.here _ _)
    cases same
  have keys := ((unused false).1 strict).2 _ _ (.field (by simp) named inside) "name" (by decide)
  have unnamed : (fieldsOf classes "Server").get? (normal "name") = none := by
    simp only [classes, own]
    cbv
  exact namesField_iff.1 keys unnamed

end XmlSettings.Schema
