import XmlSettings.Proofs.Schema.Construct
import XmlSettings.Proofs.Schema.Equations

/-! # Decoding what was rendered

What documents give back for a rendered instance (`reread`) is decoded into the instance
(`decodeValue_rereadSingle`): a single item stands for a list of it, texts are converted, and fields that are
not shown have their defaults.
-/

namespace XmlSettings.Schema

open Decimal (digitCount integerText maxDigits)
open XmlSettings.Settings (isChildKey normalChild normalChildren normalItems stringOf)
open XmlSettings.Xml (isAsciiName)

variable {classes : Classes} {className : Text} {declared : List Field} {field : Field}
  {fields : List (Text × Value)} {name : Text} {value raw : Value} {env : Environment}
  {path : Path} {settings : Settings}

/-! ## What is read back -/

/-- What a document gives back for a rendered value. -/
def reread (env : Environment) (value : Value) : Value :=
  (normalChild (render value)).expanded env

/-- What a document gives back for rendered fields. -/
def rereadEntries (env : Environment) (fields : List (Text × Value)) : Entries Text Value :=
  Value.expandedEntries env (normalChildren (renderEntries fields))

theorem expanded_normal_text {s : Text} (storable : isStorableText s = true) :
    (Settings.normal (.text s)).expanded env = .text s := by
  have kept := Settings.expanded_of_isUnbraced (isStorableText_iff.1 storable).2.2.2 env
  show Value.text (Placeholder.expanded env (Settings.normalText s)) = .text s
  rw [normalText_of_isStorableText storable, kept]

theorem reread_of_isInstance {type : Scalar} (held : type.isInstance value = true) :
    reread env value = render value := by
  obtain ⟨s, text, storable⟩ := exists_text_of_isInstance held
  rw [reread, text]
  exact expanded_normal_text storable

theorem render_ne_nil (isShown : isOmitted value = false) : render value ≠ .list [] := by
  cases value with
  | list items =>
    cases items with
    | nil => cases isShown
    | cons => simp [render, renderItems]
  | _ => simp [render]

theorem expandedEntries_append (first second : Entries Text Value) :
    Value.expandedEntries env (first ++ second) =
      Value.expandedEntries env first ++ Value.expandedEntries env second := by
  rw [Settings.expandedEntries_eq_map, Settings.expandedEntries_eq_map, Settings.expandedEntries_eq_map,
    List.map_append]

theorem rereadEntries_cons (isChild : isChildKey name = true) :
    rereadEntries env ((name, value) :: fields) =
      if isOmitted value then rereadEntries env fields
      else (name, reread env value) :: rereadEntries env fields := by
  rw [rereadEntries, renderEntries]
  split
  next => rfl
  next isShown =>
    have filled := render_ne_nil (Bool.eq_false_iff.2 isShown)
    rw [Settings.normalChildren_cons, Settings.normalChildren_child isChild filled, expandedEntries_append]
    rfl

theorem rereadEntries_ne_nil (children : ∀ name ∈ Entries.keys fields, isChildKey name = true)
    (filled : ∃ name value, (name, value) ∈ fields ∧ isOmitted value = false) :
    rereadEntries env fields ≠ [] := by
  obtain ⟨name, value, member, isShown⟩ := filled
  induction fields with
  | nil => cases member
  | cons entry rest ih =>
    obtain ⟨first, current⟩ := entry
    obtain ⟨isChild, more⟩ := List.forall_mem_cons.1 children
    rw [rereadEntries_cons isChild]
    split
    next omitted =>
      cases member with
      | head =>
        rw [omitted] at isShown
        cases isShown
      | tail _ later => exact ih more later
    next => exact List.cons_ne_nil _ _

/-- A table of rendered fields is read back as the table of what is read back for each. -/
theorem expanded_normal_table (children : ∀ name ∈ Entries.keys fields, isChildKey name = true)
    (filled : ∃ name value, (name, value) ∈ fields ∧ isOmitted value = false) :
    (Settings.normal (.table (renderEntries fields))).expanded env = .table (rereadEntries env fields) := by
  have some : rereadEntries env fields ≠ [] := rereadEntries_ne_nil children filled
  have written : normalChildren (renderEntries fields) ≠ [] := by
    intro none
    rw [rereadEntries, none] at some
    exact some rfl
  rw [Settings.normal_of_children (fun key member => children key ((keys_renderEntries fields).subset member))
    written]
  rfl

/-! ## Decoding one value -/

theorem decodeValue_text {spelling : Spelling} {members : List Hint} {s : Text} :
    decodeValue classes settings path (.text s) (.union spelling members) =
      decodeMember classes settings path (.text s) (.union spelling members) [] members := by
  rw [decodeValue]
  intro eq
  cases eq

/-- A text that stands for a scalar is converted to it. -/
theorem decodeScalar_render {type : Scalar} (held : type.isInstance value = true) :
    decodeScalar .standard path (render value) type = pure value := by
  cases type with
  | text =>
    cases value with
    | text s => rfl
    | _ => cases held
  | flag =>
    cases value with
    | flag b => cases b <;> rfl
    | _ => cases held
  | integer =>
    cases value with
    | integer n =>
      have few : digitCount n ≤ maxDigits := of_decide_eq_true held
      have converted : Value.toInteger (.text (String.ofList (integerText n))) = .ok n := by
        rw [Value.toInteger, integerOfText, Decimal.integer_integerText few]
      show convertNumber path _ .integer .integer (Value.toInteger (.text (String.ofList (integerText n)))) = _
      rw [converted]
      rfl
    | _ => cases held
  | real => cases value <;> cases held

theorem decodeValue_scalar_render {type : Scalar} (held : type.isInstance value = true) :
    decodeValue classes .standard path (render value) (.scalar type) = pure value := by
  rw [decodeValue_scalar, decodeScalar_render held]

/-- A text that stands for a scalar is converted also where there might be nothing. -/
theorem decodeValue_optional_render {spelling : Spelling} {members : List Hint} {type : Scalar}
    (known : Hint.optional? members = some type) (held : type.isInstance value = true) :
    decodeValue classes .standard path (render value) (.union spelling members) = pure value := by
  have decoded : decodeValue classes .standard path (render value) (.scalar type) = pure value :=
    decodeValue_scalar_render held
  obtain ⟨s, text, _⟩ := exists_text_of_isInstance held
  rw [text] at decoded ⊢
  rw [decodeValue_text]
  have single : (Hint.scalar type).isNothing = false := rfl
  have nothing : (Hint.plain .nothing).isNothing = true := rfl
  rcases members_of_optional? known with rfl | rfl
  · rw [decodeMember_cons, single, decoded]
    rfl
  · rw [decodeMember_cons, nothing, if_pos rfl, decodeMember_cons, single, decoded]
    rfl

/-! ## Decoding several values -/

/-- What a document gives back for a rendered item, or for a rendered value that is no list. -/
def rereadSingle (env : Environment) (value : Value) : Value :=
  (Settings.normal (render value)).expanded env

theorem expandedItems_normalItems (items : List Value) :
    Value.expandedItems env (normalItems (renderItems items)) = items.map (rereadSingle env) := by
  induction items with
  | nil => rfl
  | cons item rest ih =>
    rw [renderItems, normalItems, Value.expandedItems, ih, List.map_cons]
    rfl

theorem rereadSingle_ne_list (value : Value) : ∀ items, rereadSingle env value ≠ .list items := by
  intro items same
  cases read : Settings.normal (render value) with
  | list => exact Settings.normal_ne_list _ _ read
  | _ =>
    rw [rereadSingle, read] at same
    cases same

theorem decodeItems_map {f : Value → Value} {items : List Value} {hint : Hint} {i : Nat}
    (each : ∀ item ∈ items, ∀ path, decodeValue classes settings path (f item) hint = pure item) :
    decodeItems classes settings path i (items.map f) hint = pure items := by
  induction items generalizing i with
  | nil => rw [List.map_nil, decodeItems]
  | cons item rest ih =>
    obtain ⟨first, more⟩ := List.forall_mem_cons.1 each
    rw [List.map_cons, decodeItems, first, Run.pure_bind, ih more]
    rfl

theorem decodeEntries_reread {type : Scalar} {entries : Entries Text Value}
    (each : ∀ key value, (key, value) ∈ entries → isAsciiName (stringOf key) = true ∧ type.isInstance value = true) :
    decodeEntries classes .standard path (rereadEntries env entries) (.scalar type) = pure entries := by
  induction entries with
  | nil =>
    show decodeEntries classes .standard path [] _ = _
    rw [decodeEntries]
  | cons entry rest ih =>
    obtain ⟨key, value⟩ := entry
    obtain ⟨named, held⟩ := each key value List.mem_cons_self
    have later := ih fun key value member => each key value (List.mem_cons_of_mem _ member)
    rw [rereadEntries_cons (isChildKey_of_isAsciiName named), isOmitted_of_isInstance held, if_neg (by simp),
      decodeEntries, reread_of_isInstance held, decodeValue_scalar_render held, Run.pure_bind, later]
    rfl

/-- The values of fields are decoded one after the other; those that are not shown are passed over. -/
theorem decodeKeys_reread {before : Entries Text Value}
    (values : HaveFields classes declared fields)
    (known : ∀ field ∈ declared, (fieldsOf classes className).get? (normal field.name) = some field)
    (children : ∀ field ∈ declared, isChildKey field.name = true)
    (distinct : (Entries.keys (before ++ fields)).Nodup)
    (each : ∀ field ∈ declared, ∀ value path, (field.name, value) ∈ fields → isOmitted value = false →
      isInstance classes field.hint value = true →
        decodeValue classes .standard path (reread env value) field.hint = pure value) :
    decodeKeys classes .standard path className before (rereadEntries env fields) =
      pure (before ++ shown fields) := by
  induction values generalizing before with
  | nil =>
    rw [shown, List.filter_nil, List.append_nil]
    exact decodeKeys_nil
  | @cons field value more rest held _ ih =>
    obtain ⟨first, known⟩ := List.forall_mem_cons.1 known
    obtain ⟨isChild, children⟩ := List.forall_mem_cons.1 children
    have later := fun field inside value path member =>
      each field (List.mem_cons_of_mem _ inside) value path (List.mem_cons_of_mem _ member)
    rw [rereadEntries_cons isChild]
    split
    next omitted =>
      have passed : shown ((field.name, value) :: rest) = shown rest :=
        List.filter_cons_of_neg (by simp [omitted])
      have fewer : (Entries.keys (before ++ rest)).Nodup := by
        refine List.Sublist.nodup (List.Sublist.map _ ?_) distinct
        exact List.Sublist.append_left (List.sublist_cons_self _ _) before
      rw [passed]
      exact ih known children fewer later
    next isShown =>
      have isShown : isOmitted value = false := by simpa using isShown
      have kept : shown ((field.name, value) :: rest) = (field.name, value) :: shown rest :=
        List.filter_cons_of_pos (by simp [isShown])
      have moved : before ++ (field.name, value) :: rest = before ++ [(field.name, value)] ++ rest := by
        simp
      have new : field.name ∉ Entries.keys before := by
        intro old
        rw [Entries.keys_append, List.nodup_append] at distinct
        exact distinct.2.2 _ old _ List.mem_cons_self rfl
      have decoded := each field List.mem_cons_self value (.field field.name :: path) List.mem_cons_self
        isShown held
      rw [moved] at distinct
      rw [decodeKeys_cons first, decoded, Run.pure_bind, Entries.put_of_not_mem new,
        ih known children distinct later, kept]
      simp

/-! ## Decoding instances -/

/-- What is shown for a field is decoded, if the values inside it are. -/
theorem decodeValue_of_isShown {hint : Hint} (isShown : IsShown classes hint value)
    (singles : ∀ inner hint path, sizeOf inner ≤ sizeOf value → Hint.isSingle hint = true →
      isInstance classes hint inner = true →
        decodeValue classes .standard path (rereadSingle env inner) hint = pure inner) :
    decodeValue classes .standard path (reread env value) hint = pure value := by
  cases isShown with
  | single single held =>
    rw [reread, Settings.normalChild_of_single (render_ne_list single held)]
    exact singles value _ path (Nat.le_refl _) single held
  | optional known held =>
    rw [reread_of_isInstance held, decodeValue_optional_render known held]
  | @items spelling item items single filled each =>
    have inside (inner : Value) (member : inner ∈ items) (path : Path) :
        decodeValue classes .standard path (rereadSingle env inner) item = pure inner :=
      singles inner item path (Nat.le_of_lt (Value.sizeOf_lt_of_item member)) single (each inner member)
    match items with
    | [] => exact absurd rfl filled
    | [only] =>
      have read : reread env (.list [only]) = rereadSingle env only := rfl
      rw [read, decodeValue_only (rereadSingle_ne_list only), inside only List.mem_cons_self]
      rfl
    | first :: second :: rest =>
      have read : reread env (.list (first :: second :: rest)) =
          .list ((first :: second :: rest).map (rereadSingle env)) :=
        congrArg Value.list (expandedItems_normalItems (first :: second :: rest))
      rw [read, decodeValue_items, decodeItems_map inside]
      rfl
  | @entries spelling type entries filled distinct each =>
    have children : ∀ key ∈ Entries.keys entries, isChildKey key = true := by
      intro key member
      obtain ⟨⟨_, value⟩, found, rfl⟩ := List.mem_map.1 member
      exact isChildKey_of_isAsciiName (each _ value found).1
    obtain ⟨⟨key, value⟩, member⟩ := List.exists_mem_of_ne_nil entries filled
    have read : reread env (.table entries) = .table (rereadEntries env entries) :=
      expanded_normal_table children ⟨key, value, member, isOmitted_of_isInstance (each key value member).2⟩
    rw [read, decodeValue_entries, decodeEntries_reread each]
    rfl

/-- What is found for the fields of a class is an instance of it. -/
theorem decodeValue_record_reread (storable : AreStorableFields declared)
    (known : classes.get? className = some declared)
    (values : HaveFields classes declared fields)
    (each : ∀ field ∈ declared, ∀ value path, (field.name, value) ∈ fields → isOmitted value = false →
      isInstance classes field.hint value = true →
        decodeValue classes .standard path (reread env value) field.hint = pure value) :
    decodeValue classes .standard path (.table (rereadEntries env fields)) (.record className) =
      pure (.record className fields) := by
  have children (field : Field) (member : field ∈ declared) : isChildKey field.name = true :=
    isChildKey_of_isAsciiName (isAsciiName_of_isStorable (storable.storable field member))
  have distinct : (Entries.keys ([] ++ fields)).Nodup := by
    rw [List.nil_append, values.names]
    exact storable.names
  have decoded : decodeKeys classes .standard path className [] (rereadEntries env fields) =
      pure ([] ++ shown fields) :=
    decodeKeys_reread values (fun field => get?_fieldsOf storable known) children distinct each
  have listed : (fieldsOf classes className).map (·.2) = declared := by
    rw [fieldsOf_eq_map storable known, List.map_map]
    exact List.map_id declared
  rw [decodeValue_record, decoded, Run.pure_bind, listed, List.nil_append,
    checkGiven_of_each fun field => hasKey_shown_of_isRequired storable values, Run.pure_bind, construct,
    build_shown storable known values]

/-- A class has a field that is always shown. -/
theorem exists_shown (storable : AreStorableFields declared)
    (values : HaveFields classes declared fields) :
    ∃ name value, (name, value) ∈ fields ∧ isOmitted value = false := by
  obtain ⟨field, member, scalar⟩ := storable.scalar
  obtain ⟨value, found, held⟩ := values.value_of_mem member
  refine ⟨field.name, value, found, ?_⟩
  cases hint : field.hint with
  | scalar type =>
    rw [hint] at held
    exact isOmitted_of_isInstance (isInstance_scalar ▸ held)
  | _ => simp [Field.isScalar, hint] at scalar

/-- What a document gives back for a rendered record is a table of what it gives back for its fields. -/
theorem rereadSingle_record (storable : classes.areStorable = true)
    (held : isInstance classes (.record className) (.record className fields) = true)
    (env : Environment) :
    rereadSingle env (.record className fields) = .table (rereadEntries env fields) := by
  obtain ⟨_, declared, same, known, values⟩ := fields_of_isInstance held
  cases same
  have fieldsOf := areStorableFields_of_get? storable known
  refine expanded_normal_table ?_ (exists_shown fieldsOf values)
  rw [values.names]
  intro name member
  obtain ⟨field, inside, rfl⟩ := List.mem_map.1 member
  exact isChildKey_of_isAsciiName (isAsciiName_of_isStorable (fieldsOf.storable field inside))

/-- What a document gives back for a rendered instance is decoded into the instance. -/
theorem decodeValue_rereadSingle (storable : classes.areStorable = true) {hint : Hint}
    (single : hint.isSingle = true) (held : isInstance classes hint value = true) :
    decodeValue classes .standard path (rereadSingle env value) hint = pure value := by
  -- By the size of the value: an instance needs its fields to be decoded, and these are smaller.
  induction size : sizeOf value using Nat.strongRecOn generalizing hint value path with
  | ind _ ih =>
    cases hint with
    | scalar type =>
      have held := isInstance_scalar ▸ held
      obtain ⟨s, text, own⟩ := exists_text_of_isInstance held
      rw [rereadSingle, text, expanded_normal_text own, ← text, decodeValue_scalar_render held]
    | record className =>
      obtain ⟨fields, declared, rfl, known, values⟩ := fields_of_isInstance held
      have fieldsOf := areStorableFields_of_get? storable known
      rw [rereadSingle_record storable held env]
      refine decodeValue_record_reread fieldsOf known values fun field inside current path member isShown
        heldField => ?_
      have kind := isKind_of_isStorable (fieldsOf.storable field inside)
      have smaller : sizeOf current < sizeOf (Value.record className fields) := sizeOf_lt_of_field member
      refine decodeValue_of_isShown (isShown_of_isKind kind heldField isShown) fun inner hint path le single
        held => ?_
      exact ih (sizeOf inner) (by omega) single held rfl
    | _ => cases single

end XmlSettings.Schema
