import XmlSettings.Proofs.Decimal.Spelling
import XmlSettings.Proofs.Schema.Defaults
import XmlSettings.Proofs.Settings.Kept
import XmlSettings.Proofs.Settings.Saved

/-! # Instances in documents

Which classes have instances that documents can hold (`Classes.areStorable`), what is an instance of a
type (`isInstance`), and how an instance is rendered as texts, lists and tables (`render`).  A rendered
instance is a tree of texts (`isTree_render`).
-/

namespace XmlSettings.Schema

open Decimal (digitCount integerText isNumeralChar maxDigits)
open XmlSettings.Settings (isChildKey isDocumentText isTree isUnbraced itemsAreTrees areTrees normalText
  stringOf)
open XmlSettings.Text (strip trimBoth trimBoth_of_none)
open XmlSettings.Xml (isAsciiName isForbidden)

/-! ## Classes -/

/-- Whether a name is an identifier in ASCII. -/
def isIdentifier (name : Text) : Bool :=
  match name.chars with
  | [] => false
  | first :: rest => (first.isAlpha || first == '_') && rest.all fun c => c.isAlphanum || c == '_'

/-- Whether every value of a scalar type is read back from a text. -/
def Scalar.isStorable : Scalar → Bool
  | real => false
  | _ => true

/-- The scalar type of a type that is that or nothing. -/
def Hint.optional? : List Hint → Option Scalar
  | [.scalar type, .plain .nothing] => some type
  | [.plain .nothing, .scalar type] => some type
  | _ => none

/-- Whether values of a type are single elements of a document. -/
def Hint.isSingle : Hint → Bool
  | scalar type => type.isStorable
  | record _ => true
  | _ => false

/-- Whether a field can be kept in documents.  What a document does not show of it, nothing or an empty
    list or table, is its default. -/
def Field.isStorable (field : Field) : Bool :=
  field.isSettable && isIdentifier field.name &&
    match field.hint, field.default with
    | .scalar type, _ => type.isStorable
    | .record _, _ => true
    | .union _ members, .value .nothing => (Hint.optional? members).any Scalar.isStorable
    | .list _ item, .value (.list []) => item.isSingle
    | .table _ (.scalar type), .value (.table []) => type.isStorable
    | _, _ => false

/-- Whether a field is always shown as a text. -/
def Field.isScalar (field : Field) : Bool :=
  match field.hint with
  | .scalar _ => true
  | _ => false

/-- Whether instances of a class with some fields can be kept in documents. -/
def areStorableFields (fields : List Field) : Bool :=
  fields.all Field.isStorable && decide (fields.map fun field => normal field.name).Nodup &&
    fields.any Field.isScalar

/-- Whether instances of all classes can be kept in documents. -/
def Classes.areStorable (classes : Classes) : Bool :=
  classes.all fun declared => areStorableFields declared.2

/-! ## Instances -/

/-- Whether a text is read back from a document as it is. -/
def isStorableText (s : Text) : Bool :=
  strip s == s && !s.chars.contains '\r' && isDocumentText s && isUnbraced s

/-- Whether a value is of a scalar type, and can be kept in documents. -/
def Scalar.isInstance : Scalar → Value → Bool
  | text, .text s => isStorableText s
  | flag, .flag _ => true
  | integer, .integer n => decide (digitCount n ≤ maxDigits)
  | _, _ => false

/-- Whether a value is of one of the scalar types among some types. -/
def isMember (members : List Hint) (value : Value) : Bool :=
  members.any fun
    | .scalar type => type.isInstance value
    | _ => false

mutual

/-- Whether a value is of a type, and can be kept in documents. -/
def isInstance (classes : Classes) : Hint → Value → Bool
  | .scalar type, value => type.isInstance value
  | .union _ members, .nothing => members.any Hint.isNothing
  | .union _ members, value => isMember members value
  | .list _ item, .list items => areInstances classes item items
  | .table _ (.scalar type), .table entries =>
    decide (Entries.keys entries).Nodup &&
      entries.all fun entry => isAsciiName (stringOf entry.1) && type.isInstance entry.2
  | .record className, .record other fields =>
    className == other &&
      match classes.get? className with
      | some declared => haveFields classes declared fields
      | none => false
  | _, _ => false
termination_by structural _ value => value

/-- Whether all items of a list are of a type. -/
def areInstances (classes : Classes) (hint : Hint) : List Value → Bool
  | [] => true
  | item :: rest => isInstance classes hint item && areInstances classes hint rest
termination_by structural items => items

/-- Whether values are those of declared fields, in order. -/
def haveFields (classes : Classes) : List Field → List (Text × Value) → Bool
  | [], [] => true
  | field :: more, (name, value) :: rest =>
    field.name == name && isInstance classes field.hint value && haveFields classes more rest
  | _, _ => false
termination_by structural _ fields => fields

end

/-! ## Rendering -/

/-- Whether a document does not show a value. -/
def isOmitted : Value → Bool
  | .nothing | .list [] | .table [] => true
  | _ => false

mutual

/-- An instance as texts, lists and tables. -/
def render : Value → Value
  | .flag b => .text (if b then "true" else "false")
  | .integer n => .text (String.ofList (integerText n))
  | .list items => .list (renderItems items)
  | .table entries => .table (renderEntries entries)
  | .record _ fields => .table (renderEntries fields)
  | value => value
termination_by structural value => value

/-- The items of a list as texts and tables. -/
def renderItems : List Value → List Value
  | [] => []
  | item :: rest => render item :: renderItems rest
termination_by structural items => items

/-- The values of fields or of a table, apart from those that are not shown. -/
def renderEntries : List (Text × Value) → Entries Text Value
  | [] => []
  | (key, value) :: rest =>
    if isOmitted value then renderEntries rest else (key, render value) :: renderEntries rest
termination_by structural entries => entries

end

/-! ## Texts -/

/-- What is known of a text that is read back as it is. -/
theorem isStorableText_iff {s : Text} :
    isStorableText s = true ↔
      strip s = s ∧ '\r' ∉ s.chars ∧ isDocumentText s = true ∧ isUnbraced s = true := by
  simp [isStorableText, and_assoc]

theorem normalText_of_isStorableText {s : Text} (storable : isStorableText s = true) :
    normalText s = s := by
  obtain ⟨own, noReturn, held, _⟩ := isStorableText_iff.1 storable
  have plain := (Settings.isDocumentText_iff.1 held).1
  rw [normalText, Xml.lineFeeds_of_not_mem noReturn, Text.ofString_ofList_chars plain, own]

theorem isStorableText_integerText (n : Int) :
    isStorableText (String.ofList (integerText n)) = true := by
  have bounds (c : Char) (member : c ∈ integerText n) : 0x2D ≤ c.toNat ∧ c.toNat ≤ 0x39 :=
    Decimal.toNat_of_isNumeralChar (Decimal.isNumeralChar_of_mem c member)
  refine isStorableText_iff.2 ⟨?_, ?_, ?_, ?_⟩
  · have noBlank : trimBoth Text.isBlank (integerText n) = integerText n := trimBoth_of_none fun c member =>
      Decimal.isBlank_of_isNumeralChar (Decimal.isNumeralChar_of_mem c member)
    rw [Text.strip_ofString, String.toList_ofList, noBlank]
  · rw [Text.chars_ofString, String.toList_ofList]
    exact fun member => absurd (bounds _ member).1 (by decide)
  · rw [Settings.isDocumentText_ofString, String.toList_ofList]
    intro c member
    have bound := bounds c member
    have noLast : c ≠ '\ufffe' ∧ c ≠ '\uffff' := by
      constructor <;> rintro rfl <;> exact absurd bound.2 (by decide)
    simp [isForbidden, noLast, Nat.not_lt.2 (show 0x20 ≤ c.toNat by omega)]
  · have noSign : Rune.char '$' ∉ (integerText n).map Rune.char := by
      intro member
      obtain ⟨c, inside, same⟩ := List.mem_map.1 member
      cases same
      exact absurd (bounds '$' inside).1 (by decide)
    rw [isUnbraced, Placeholder.body?, Text.toList_ofString, String.toList_ofList]
    split
    next rest same => exact absurd (same ▸ List.mem_cons_self) noSign
    next => rfl

/-- A scalar is rendered as a text that is read back as it is. -/
theorem exists_text_of_isInstance {type : Scalar} {value : Value}
    (held : type.isInstance value = true) :
    ∃ s, render value = .text s ∧ isStorableText s = true := by
  cases value with
  | text s =>
    cases type with
    | text => exact ⟨s, rfl, held⟩
    | _ => cases held
  | flag b =>
    refine ⟨if b then "true" else "false", rfl, ?_⟩
    cases b <;> decide
  | integer n => exact ⟨_, rfl, isStorableText_integerText n⟩
  | _ => cases type <;> cases held

theorem isOmitted_of_isInstance {type : Scalar} {value : Value}
    (held : type.isInstance value = true) : isOmitted value = false := by
  cases value with
  | text | flag | integer => rfl
  | _ => cases type <;> cases held

theorem isTree_text_of_isStorableText {s : Text} (storable : isStorableText s = true) :
    isTree (.text s) = true :=
  Settings.isTree_text (isStorableText_iff.1 storable).2.2.1

/-! ## Fields -/

section Fields

variable {classes : Classes} {declared : List Field} {fields : List (Text × Value)} {field : Field}
  {name : Text} {value : Value}

theorem isAsciiName_of_isIdentifier (identifier : isIdentifier name = true) :
    isAsciiName (stringOf name) = true := by
  cases chars : name.chars with
  | nil => simp [isIdentifier, chars] at identifier
  | cons first rest =>
    simp only [isIdentifier, isAsciiName, stringOf, String.toList_ofList, chars, Bool.and_eq_true,
      List.all_eq_true, Bool.or_eq_true] at identifier ⊢
    exact ⟨identifier.1, fun c member => .inl (.inl (identifier.2 c member))⟩

theorem isChildKey_of_isAsciiName (ascii : isAsciiName (stringOf name) = true) : isChildKey name = true := by
  obtain ⟨spelled, _, readable⟩ := Settings.names_of_isAsciiName ascii
  exact spelled ▸ Settings.isChildKey_of_isReadName ⟨_, readable⟩

theorem isSettable_of_isStorable (storable : field.isStorable = true) : field.isSettable = true := by
  simp only [Field.isStorable, Bool.and_eq_true] at storable
  exact storable.1.1

theorem isAsciiName_of_isStorable (storable : field.isStorable = true) :
    isAsciiName (stringOf field.name) = true := by
  simp only [Field.isStorable, Bool.and_eq_true] at storable
  exact isAsciiName_of_isIdentifier storable.1.2

/-- Values of declared fields, in order. -/
inductive HaveFields (classes : Classes) : List Field → List (Text × Value) → Prop where
  | nil : HaveFields classes [] []
  | cons {field : Field} {value : Value} {declared : List Field} {fields : List (Text × Value)}
      (held : isInstance classes field.hint value = true) (more : HaveFields classes declared fields) :
      HaveFields classes (field :: declared) ((field.name, value) :: fields)

theorem haveFields_of_eq_true (held : haveFields classes declared fields = true) :
    HaveFields classes declared fields := by
  induction fields generalizing declared with
  | nil =>
    cases declared with
    | nil => exact .nil
    | cons => cases held
  | cons entry rest ih =>
    cases declared with
    | nil => cases held
    | cons field more =>
      obtain ⟨name, value⟩ := entry
      simp only [haveFields, Bool.and_eq_true, beq_iff_eq] at held
      obtain ⟨⟨rfl, first⟩, later⟩ := held
      exact .cons first (ih later)

/-- The values of an instance are those of the declared fields. -/
theorem HaveFields.field_of_mem (values : HaveFields classes declared fields)
    (member : (name, value) ∈ fields) :
    ∃ field ∈ declared, field.name = name ∧ isInstance classes field.hint value = true := by
  induction values with
  | nil => cases member
  | @cons field _ _ _ held _ ih =>
    cases member with
    | head => exact ⟨field, List.mem_cons_self, rfl, held⟩
    | tail _ later =>
      obtain ⟨found, inside, known⟩ := ih later
      exact ⟨found, List.mem_cons_of_mem _ inside, known⟩

theorem HaveFields.value_of_mem (values : HaveFields classes declared fields)
    (member : field ∈ declared) :
    ∃ value, (field.name, value) ∈ fields ∧ isInstance classes field.hint value = true := by
  induction values with
  | nil => cases member
  | @cons _ value _ _ held _ ih =>
    cases member with
    | head => exact ⟨value, List.mem_cons_self, held⟩
    | tail _ later =>
      obtain ⟨found, inside, known⟩ := ih later
      exact ⟨found, List.mem_cons_of_mem _ inside, known⟩

theorem HaveFields.names (values : HaveFields classes declared fields) :
    Entries.keys fields = declared.map Field.name := by
  induction values with
  | nil => rfl
  | cons _ _ ih => rw [Entries.keys_cons, List.map_cons, ih]

theorem mem_renderEntries {rendered : Value} (member : (name, rendered) ∈ renderEntries fields) :
    ∃ value, (name, value) ∈ fields ∧ isOmitted value = false ∧ rendered = render value := by
  induction fields with
  | nil => cases member
  | cons entry rest ih =>
    obtain ⟨first, current⟩ := entry
    rw [renderEntries] at member
    split at member
    next =>
      obtain ⟨value, inside, shown⟩ := ih member
      exact ⟨value, List.mem_cons_of_mem _ inside, shown⟩
    next shown =>
      cases member with
      | head => exact ⟨current, List.mem_cons_self, by simpa using shown, rfl⟩
      | tail _ later =>
        obtain ⟨value, inside, more⟩ := ih later
        exact ⟨value, List.mem_cons_of_mem _ inside, more⟩

theorem keys_renderEntries (fields : List (Text × Value)) :
    List.Sublist (Entries.keys (renderEntries fields)) (Entries.keys fields) := by
  induction fields with
  | nil => exact .slnil
  | cons entry rest ih =>
    obtain ⟨first, current⟩ := entry
    rw [renderEntries]
    split
    next => exact .cons _ ih
    next => exact .cons_cons _ ih

/-- What a value can be that is shown for a field. -/
inductive IsShown (classes : Classes) : Hint → Value → Prop where
  | single {hint : Hint} {value : Value} (single : hint.isSingle = true)
      (held : isInstance classes hint value = true) : IsShown classes hint value
  | optional {spelling : Spelling} {members : List Hint} {type : Scalar} {value : Value}
      (known : Hint.optional? members = some type) (held : type.isInstance value = true) :
      IsShown classes (.union spelling members) value
  | items {spelling : Spelling} {item : Hint} {items : List Value} (single : item.isSingle = true)
      (filled : items ≠ []) (each : ∀ value ∈ items, isInstance classes item value = true) :
      IsShown classes (.list spelling item) (.list items)
  | entries {spelling : Spelling} {type : Scalar} {entries : Entries Text Value} (filled : entries ≠ [])
      (distinct : entries.keys.Nodup)
      (each : ∀ key value, (key, value) ∈ entries →
        isAsciiName (stringOf key) = true ∧ type.isInstance value = true) :
      IsShown classes (.table spelling (.scalar type)) (.table entries)

@[simp] theorem isInstance_scalar {type : Scalar} :
    isInstance classes (.scalar type) value = type.isInstance value := by
  cases value <;> rfl

theorem areInstances_iff {hint : Hint} {items : List Value} :
    areInstances classes hint items = true ↔ ∀ item ∈ items, isInstance classes hint item = true := by
  induction items with
  | nil => simp [areInstances]
  | cons item rest ih => simp [areInstances, ih]

theorem members_of_optional? {members : List Hint} {type : Scalar}
    (known : Hint.optional? members = some type) :
    members = [.scalar type, .plain .nothing] ∨ members = [.plain .nothing, .scalar type] := by
  unfold Hint.optional? at known
  split at known
  next =>
    cases known
    exact .inl rfl
  next =>
    cases known
    exact .inr rfl
  next => cases known

theorem isInstance_of_isMember {members : List Hint} {type : Scalar}
    (known : Hint.optional? members = some type) (held : isMember members value = true) :
    type.isInstance value = true := by
  rcases members_of_optional? known with rfl | rfl <;> simpa [isMember] using held

/-- The types of fields that can be kept in documents, each with the defaults that it may have. -/
inductive IsKind : Hint → Default → Prop where
  | single {hint : Hint} {default : Default} (single : hint.isSingle = true) : IsKind hint default
  | optional {spelling : Spelling} {members : List Hint} {type : Scalar}
      (known : Hint.optional? members = some type) : IsKind (.union spelling members) (.value .nothing)
  | items {spelling : Spelling} {item : Hint} (single : item.isSingle = true) :
      IsKind (.list spelling item) (.value (.list []))
  | entries {spelling : Spelling} {type : Scalar} :
      IsKind (.table spelling (.scalar type)) (.value (.table []))

theorem isKind_of_isStorable (storable : field.isStorable = true) : IsKind field.hint field.default := by
  simp only [Field.isStorable, Bool.and_eq_true] at storable
  obtain ⟨_, kind⟩ := storable
  split at kind
  next hint =>
    rw [hint]
    exact .single kind
  next hint =>
    rw [hint]
    exact .single rfl
  next hint default =>
    rw [hint, default]
    cases known : Hint.optional? _ with
    | none =>
      rw [known] at kind
      cases kind
    | some type => exact .optional known
  next hint default =>
    rw [hint, default]
    exact .items kind
  next hint default =>
    rw [hint, default]
    exact .entries
  next => cases kind

theorem isOmitted_of_isSingle {hint : Hint} (single : hint.isSingle = true)
    (held : isInstance classes hint value = true) : isOmitted value = false := by
  cases hint with
  | scalar type => exact isOmitted_of_isInstance (isInstance_scalar ▸ held)
  | record className => cases value <;> first | rfl | cases held
  | _ => cases single

/-- A value of a field that can be kept in documents is shown in one of a few ways. -/
theorem isShown_of_isKind {hint : Hint} {default : Default} (kind : IsKind hint default)
    (held : isInstance classes hint value = true) (shown : isOmitted value = false) :
    IsShown classes hint value := by
  cases kind with
  | single single => exact .single single held
  | optional known =>
    cases value with
    | nothing => cases shown
    | _ => exact .optional known (isInstance_of_isMember known held)
  | items single =>
    cases value with
    | list items =>
      refine .items single ?_ (areInstances_iff.1 held)
      rintro rfl
      cases shown
    | _ => cases held
  | entries =>
    cases value with
    | table entries =>
      simp only [isInstance, Bool.and_eq_true, decide_eq_true_eq, List.all_eq_true] at held
      refine .entries ?_ held.1 fun key value member => held.2 _ member
      rintro rfl
      cases shown
    | _ => cases held

/-- What a document does not show of a field is its default. -/
theorem default_of_isOmitted {hint : Hint} {default : Default} (kind : IsKind hint default)
    (held : isInstance classes hint value = true) (omitted : isOmitted value = true) :
    default = .value value := by
  cases kind with
  | single single =>
    rw [isOmitted_of_isSingle single held] at omitted
    cases omitted
  | optional known =>
    cases value with
    | nothing => rfl
    | _ =>
      rw [isOmitted_of_isInstance (isInstance_of_isMember known held)] at omitted
      cases omitted
  | items =>
    cases value with
    | list items =>
      cases items with
      | nil => rfl
      | cons => cases omitted
    | _ => cases held
  | entries =>
    cases value with
    | table entries =>
      cases entries with
      | nil => rfl
      | cons => cases omitted
    | _ => cases held

end Fields

/-! ## Records -/

section Records

variable {classes : Classes} {className : Text} {declared : List Field} {value : Value}

theorem fields_of_isInstance (held : isInstance classes (.record className) value = true) :
    ∃ fields declared, value = .record className fields ∧ classes.get? className = some declared ∧
      HaveFields classes declared fields := by
  cases value with
  | record other fields =>
    rw [isInstance, Bool.and_eq_true, beq_iff_eq] at held
    obtain ⟨rfl, held⟩ := held
    cases known : classes.get? className with
    | none =>
      rw [known] at held
      cases held
    | some declared =>
      rw [known] at held
      exact ⟨fields, declared, rfl, rfl, haveFields_of_eq_true held⟩
  | _ => cases held

/-- What is known of the fields of a class of which instances can be kept. -/
structure AreStorableFields (declared : List Field) : Prop where
  storable : ∀ field ∈ declared, field.isStorable = true
  distinct : (declared.map fun field => normal field.name).Nodup
  scalar : ∃ field ∈ declared, field.isScalar = true

theorem areStorableFields_of_get? (storable : classes.areStorable = true)
    (known : classes.get? className = some declared) : AreStorableFields declared := by
  have each := List.all_eq_true.1 storable _ (Entries.mem_of_get? known)
  simp only [areStorableFields, Bool.and_eq_true, decide_eq_true_eq, List.all_eq_true,
    List.any_eq_true] at each
  exact ⟨each.1.1, each.1.2, each.2⟩

theorem AreStorableFields.names (fields : AreStorableFields declared) :
    (declared.map Field.name).Nodup := by
  refine List.Nodup.of_map normal ?_
  rw [List.map_map]
  exact fields.distinct

theorem mem_renderItems {items : List Value} {rendered : Value}
    (member : rendered ∈ renderItems items) : ∃ item ∈ items, rendered = render item := by
  induction items with
  | nil => cases member
  | cons item rest ih =>
    cases member with
    | head => exact ⟨item, List.mem_cons_self, rfl⟩
    | tail _ later =>
      obtain ⟨found, inside, same⟩ := ih later
      exact ⟨found, List.mem_cons_of_mem _ inside, same⟩

theorem render_ne_list {hint : Hint} (single : hint.isSingle = true)
    (held : isInstance classes hint value = true) : ∀ items, render value ≠ .list items := by
  intro items
  cases hint with
  | scalar type =>
    obtain ⟨s, text, _⟩ := exists_text_of_isInstance (isInstance_scalar ▸ held)
    simp [text]
  | record className =>
    obtain ⟨fields, _, rfl, _⟩ := fields_of_isInstance held
    simp [render]
  | _ => cases single

/-- What is shown for a field is a tree of texts, or a list of them. -/
theorem areTrees_of_isShown {hint : Hint} {name : Text} (shown : IsShown classes hint value)
    (ascii : isAsciiName (stringOf name) = true)
    (trees : ∀ inner hint, sizeOf inner ≤ sizeOf value → Hint.isSingle hint = true →
      isInstance classes hint inner = true → isTree (render inner) = true) :
    areTrees [(name, render value)] = true := by
  have isChild := isChildKey_of_isAsciiName ascii
  cases shown with
  | single single held =>
    exact Settings.areTrees_child isChild ascii (render_ne_list single held)
      (trees _ _ (Nat.le_refl _) single held)
  | optional known held =>
    obtain ⟨s, text, storable⟩ := exists_text_of_isInstance held
    rw [text]
    exact Settings.areTrees_child isChild ascii nofun (isTree_text_of_isStorableText storable)
  | @items _ item items single filled each =>
    have inside : itemsAreTrees (renderItems items) = true :=
      Settings.itemsAreTrees_of_each fun rendered member => by
        obtain ⟨inner, found, rfl⟩ := mem_renderItems member
        have smaller := Value.sizeOf_lt_of_item found
        exact trees inner item (Nat.le_of_lt smaller) single (each inner found)
    simp [render, areTrees, isChild, ascii, inside]
  | @entries _ type entries filled distinct each =>
    refine Settings.areTrees_child isChild ascii nofun (Settings.isTree_table ?_ fun key rendered member => ?_)
    · exact (keys_renderEntries entries).nodup distinct
    · obtain ⟨inner, found, _, rfl⟩ := mem_renderEntries member
      obtain ⟨named, held⟩ := each key inner found
      obtain ⟨s, text, storable⟩ := exists_text_of_isInstance held
      rw [text]
      exact Settings.areTrees_child (isChildKey_of_isAsciiName named) named nofun
        (isTree_text_of_isStorableText storable)

/-- A rendered instance is a tree of texts. -/
theorem isTree_render (storable : classes.areStorable = true) {hint : Hint} {value : Value}
    (single : hint.isSingle = true) (held : isInstance classes hint value = true) :
    isTree (render value) = true := by
  -- The values of fields are smaller than the record, also those inside a list.
  induction size : sizeOf value using Nat.strongRecOn generalizing hint value with
  | ind _ ih =>
    cases hint with
    | scalar type =>
      obtain ⟨s, text, own⟩ := exists_text_of_isInstance (isInstance_scalar ▸ held)
      rw [text]
      exact isTree_text_of_isStorableText own
    | record className =>
      obtain ⟨fields, declared, rfl, known, values⟩ := fields_of_isInstance held
      have fieldsOf := areStorableFields_of_get? storable known
      refine Settings.isTree_table ?_ fun name rendered member => ?_
      · have names := fieldsOf.names
        rw [← values.names] at names
        exact (keys_renderEntries fields).nodup names
      · obtain ⟨current, found, shown, rfl⟩ := mem_renderEntries member
        obtain ⟨field, inside, rfl, heldField⟩ := values.field_of_mem found
        have storableField := fieldsOf.storable field inside
        have kind := isKind_of_isStorable storableField
        have smaller : sizeOf current < sizeOf (Value.record className fields) := sizeOf_lt_of_field found
        refine areTrees_of_isShown (isShown_of_isKind kind heldField shown)
          (isAsciiName_of_isStorable storableField) fun inner hint le single held => ?_
        exact ih (sizeOf inner) (by omega) single held rfl
    | _ => cases single

end Records

end XmlSettings.Schema
