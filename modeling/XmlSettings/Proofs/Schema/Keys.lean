import XmlSettings.Proofs.Schema.Equations
import XmlSettings.Proofs.Schema.Inhabits

/-! # What the keys of a table give

A table is decoded key by key (`AreDecoded`).  It is decoded exactly if every key is accepted on its own
(`exists_areDecoded_iff`), and of several keys that name one field the last one counts
(`AreDecoded.get?_reverse`).
-/

namespace XmlSettings.Schema

variable {classes : Classes} {settings : Settings} {path : Path} {className key name : Text}
  {field : Field} {raw : Value} {entries values before after : List (Text × Value)}

/-- What is found under a key is a settable field of the class that the key names. -/
theorem of_get?_settable (found : (fieldsOf classes className).get? key = some field) :
    normal field.name = key ∧ field.isSettable = true ∧
      ∃ declared, classes.get? className = some declared ∧ field ∈ declared := by
  rcases Entries.mem_of_mem_putAll (Entries.mem_of_get? found) with none | member
  · cases none
  · obtain ⟨other, inside, same⟩ := List.mem_map.1 member
    obtain ⟨named, rfl⟩ := Prod.mk.inj same
    obtain ⟨inside, settable⟩ := List.mem_filter.1 inside
    refine ⟨named, settable, ?_⟩
    cases known : classes.get? className with
    | none => simp [known] at inside
    | some declared => exact ⟨declared, rfl, by simpa [known] using inside⟩

/-! ## Keys one after the other -/

/-- What is decoded under the keys of a table, by the names of the fields that the keys name. -/
inductive AreDecoded (classes : Classes) (settings : Settings) (path : Path) (className : Text) :
    List (Text × Value) → List (Text × Value) → Prop where
  | nil : AreDecoded classes settings path className [] []
  | passed {key : Text} {raw : Value} {rest values : List (Text × Value)}
      (unnamed : (fieldsOf classes className).get? (normal key) = none)
      (allowed : settings.rejectUnused = false)
      (more : AreDecoded classes settings path className rest values) :
      AreDecoded classes settings path className ((key, raw) :: rest) values
  | taken {key : Text} {raw value : Value} {field : Field} {rest values : List (Text × Value)}
      (named : (fieldsOf classes className).get? (normal key) = some field)
      (decoded : (decodeValue classes settings (.field field.name :: path) raw field.hint).result =
        .ok value)
      (more : AreDecoded classes settings path className rest values) :
      AreDecoded classes settings path className ((key, raw) :: rest) ((field.name, value) :: values)

theorem exists_of_decodeKeys_eq_ok
    (done : (decodeKeys classes settings path className before entries).result = .ok after) :
    ∃ values, AreDecoded classes settings path className entries values ∧
      after = Entries.putAll before values := by
  induction entries generalizing before with
  | nil =>
    rw [decodeKeys_nil] at done
    cases done
    exact ⟨[], .nil, rfl⟩
  | cons entry rest ih =>
    obtain ⟨key, raw⟩ := entry
    cases found : (fieldsOf classes className).get? (normal key) with
    | none =>
      rw [decodeKeys_unnamed found] at done
      cases refused : settings.rejectUnused with
      | true =>
        rw [refused] at done
        cases done
      | false =>
        rw [refused, if_neg Bool.false_ne_true, Run.result_bind_eq_ok] at done
        obtain ⟨_, _, later⟩ := done
        obtain ⟨values, decoded, rfl⟩ := ih later
        exact ⟨values, .passed found refused decoded, rfl⟩
    | some field =>
      rw [decodeKeys_cons found, Run.result_bind_eq_ok] at done
      obtain ⟨value, first, later⟩ := done
      obtain ⟨values, decoded, rfl⟩ := ih later
      exact ⟨_, .taken found first decoded, rfl⟩

theorem AreDecoded.decodeKeys_eq_ok (decoded : AreDecoded classes settings path className entries values)
    (before : Entries Text Value) : (decodeKeys classes settings path className before entries).result =
      .ok (Entries.putAll before values) := by
  induction decoded generalizing before with
  | nil =>
    rw [decodeKeys_nil]
    rfl
  | passed unnamed allowed _ ih =>
    rw [decodeKeys_unnamed unnamed, allowed, if_neg Bool.false_ne_true, Run.result_bind_eq_ok]
    exact ⟨⟨⟩, rfl, ih before⟩
  | taken named first _ ih =>
    rw [decodeKeys_cons named, Run.result_bind_eq_ok]
    exact ⟨_, first, ih _⟩

theorem decodeKeys_eq_ok_iff : (decodeKeys classes settings path className before entries).result =
    .ok after ↔ ∃ values, AreDecoded classes settings path className entries values ∧
      after = Entries.putAll before values := by
  refine ⟨exists_of_decodeKeys_eq_ok, ?_⟩
  rintro ⟨values, decoded, rfl⟩
  exact decoded.decodeKeys_eq_ok before

/-- Whether a key names no field and may do so, or a value is decoded for the field that it names. -/
def IsAccepted (classes : Classes) (settings : Settings) (path : Path) (className key : Text)
    (raw : Value) : Prop :=
  match (fieldsOf classes className).get? (normal key) with
  | none => settings.rejectUnused = false
  | some field =>
    ∃ value, (decodeValue classes settings (.field field.name :: path) raw field.hint).result = .ok value

theorem exists_areDecoded_iff : (∃ values, AreDecoded classes settings path className entries values) ↔
    ∀ key raw, (key, raw) ∈ entries → IsAccepted classes settings path className key raw := by
  induction entries with
  | nil => exact ⟨fun _ => nofun, fun _ => ⟨[], .nil⟩⟩
  | cons entry rest ih =>
    obtain ⟨key, raw⟩ := entry
    constructor
    · rintro ⟨values, decoded⟩ other inner member
      cases decoded with
      | passed unnamed allowed more =>
        cases member with
        | head => simpa [IsAccepted, unnamed] using allowed
        | tail _ later => exact ih.1 ⟨_, more⟩ other inner later
      | taken named first more =>
        cases member with
        | head => simpa [IsAccepted, named] using ⟨_, first⟩
        | tail _ later => exact ih.1 ⟨_, more⟩ other inner later
    · intro each
      obtain ⟨values, more⟩ := ih.2 fun key raw member => each key raw (List.mem_cons_of_mem _ member)
      have first := each key raw List.mem_cons_self
      unfold IsAccepted at first
      split at first
      next unnamed => exact ⟨values, .passed unnamed first more⟩
      next field named =>
        obtain ⟨value, first⟩ := first
        exact ⟨_, .taken named first more⟩

/-! ## What is found for a field -/

namespace AreDecoded

theorem exists_key (decoded : AreDecoded classes settings path className entries values)
    (member : name ∈ Entries.keys values) : ∃ key ∈ Entries.keys entries, ∃ field,
      (fieldsOf classes className).get? (normal key) = some field ∧ field.name = name := by
  induction decoded with
  | nil => cases member
  | passed _ _ _ ih =>
    obtain ⟨key, known, field, named, same⟩ := ih member
    exact ⟨key, List.mem_cons_of_mem _ known, field, named, same⟩
  | taken named _ _ ih =>
    cases member with
    | head => exact ⟨_, List.mem_cons_self, _, named, rfl⟩
    | tail _ later =>
      obtain ⟨key, known, field, named, same⟩ := ih later
      exact ⟨key, List.mem_cons_of_mem _ known, field, named, same⟩

theorem mem_keys (decoded : AreDecoded classes settings path className entries values)
    (known : key ∈ Entries.keys entries)
    (named : (fieldsOf classes className).get? (normal key) = some field) :
    field.name ∈ Entries.keys values := by
  induction decoded with
  | nil => cases known
  | passed unnamed _ _ ih =>
    cases known with
    | head => simp [unnamed] at named
    | tail _ later => exact ih later
  | taken first _ _ ih =>
    cases known with
    | head =>
      cases first.symm.trans named
      exact List.mem_cons_self
    | tail _ later => exact List.mem_cons_of_mem _ (ih later)

/-- The last key that names a field gives the value for it. -/
theorem get?_reverse (decoded : AreDecoded classes settings path className entries values)
    (known : (fieldsOf classes className).get? (normal field.name) = some field) :
    (lastNamed field.name entries = none ∧ Entries.get? values.reverse field.name = none) ∨
      ∃ raw value, lastNamed field.name entries = some raw ∧
        (decodeValue classes settings (.field field.name :: path) raw field.hint).result = .ok value ∧
        Entries.get? values.reverse field.name = some value := by
  induction decoded with
  | nil => exact .inl ⟨rfl, rfl⟩
  | @passed key _ _ _ unnamed _ _ ih =>
    have other : normal key ≠ normal field.name := by
      intro same
      simp [same, known] at unnamed
    simpa [lastNamed, other] using ih
  | @taken key raw value named rest values first decoded _ ih =>
    rw [List.reverse_cons, Entries.get?_append, lastNamed]
    -- The first key counts only if no later one names the field.
    rcases ih with ⟨last, none⟩ | ⟨later, result, last, done, found⟩
    · by_cases same : normal key = normal field.name
      · rw [same, known] at first
        cases first
        exact .inr ⟨raw, value, by simp [last, same], decoded, by simp [none, Entries.get?]⟩
      · have other : named.name ≠ field.name := by
          intro sameName
          exact same (sameName ▸ (of_get?_settable first).1.symm)
        exact .inl ⟨by simp [last, same], by simp [none, Entries.get?, other]⟩
    · exact .inr ⟨later, result, by simp [last], done, by simp [found]⟩

theorem get?_of_lastNamed (decoded : AreDecoded classes settings path className entries values)
    (known : (fieldsOf classes className).get? (normal field.name) = some field)
    (last : lastNamed field.name entries = some raw) :
    ∃ value, (decodeValue classes settings (.field field.name :: path) raw field.hint).result = .ok value ∧
      Entries.get? (Entries.ofPairs values) field.name = some value := by
  rw [Entries.get?_ofPairs]
  rcases decoded.get?_reverse known with ⟨none, _⟩ | ⟨_, value, some, done, found⟩
  · cases none.symm.trans last
  · cases some.symm.trans last
    exact ⟨value, done, found⟩

theorem get?_of_unnamed (decoded : AreDecoded classes settings path className entries values)
    (known : (fieldsOf classes className).get? (normal field.name) = some field)
    (unnamed : lastNamed field.name entries = none) :
    Entries.get? (Entries.ofPairs values) field.name = none := by
  rw [Entries.get?_ofPairs]
  rcases decoded.get?_reverse known with ⟨_, unset⟩ | ⟨_, _, some, _⟩
  · exact unset
  · cases some.symm.trans unnamed

end AreDecoded

/-! ## Decoding a table into a new instance -/

theorem checkGiven_of_givesRequired {given : Entries Text Value} (known : classes.get? className = some declared)
    (complete : GivesRequired given declared) :
    checkGiven path given ((fieldsOf classes className).map (·.2)) = pure ⟨⟩ := by
  refine checkGiven_of_each fun field member required => ?_
  obtain ⟨⟨key, _⟩, found, rfl⟩ := List.mem_map.1 member
  rw [fieldsOf, known] at found
  obtain ⟨_, inside, same⟩ :=
    List.mem_map.1 ((Entries.mem_of_mem_putAll found).resolve_left List.not_mem_nil)
  cases same
  obtain ⟨inside, settable⟩ := List.mem_filter.1 inside
  exact complete _ inside settable required

theorem construct_eq_ok_iff {given : Entries Text Value} :
    (construct classes className given).result = .ok value ↔ classes.build className given = .ok value := by
  unfold construct
  cases classes.build className given with
  | ok =>
    constructor <;>
    · intro same
      cases same
      rfl
  | error => exact iff_of_false nofun nofun

theorem decodeValue_record_eq_ok_iff :
    (decodeValue classes settings path raw (.record className)).result = .ok value ↔
      ∃ entries values declared fields, raw = .table entries ∧
        AreDecoded classes settings path className entries values ∧
        classes.get? className = some declared ∧
        GivesRequired (Entries.ofPairs values) declared ∧
        AreFilled (classes.erase className) (Entries.ofPairs values) declared fields ∧
        value = .record className fields := by
  cases raw with
  | table entries =>
    rw [decodeValue_record]
    simp only [Run.result_bind_eq_ok, decodeKeys_eq_ok_iff, construct_eq_ok_iff, build_eq_ok_iff]
    constructor
    · rintro ⟨_, ⟨values, decoded, rfl⟩, _, _, declared, fields, known, complete, filled, rfl⟩
      exact ⟨entries, values, declared, fields, rfl, decoded, known, complete, filled, rfl⟩
    · rintro ⟨_, values, declared, fields, same, decoded, known, complete, filled, rfl⟩
      cases same
      refine ⟨Entries.ofPairs values, ⟨values, decoded, rfl⟩, ⟨⟩, ?_, declared, fields, known, complete,
        filled, rfl⟩
      rw [checkGiven_of_givesRequired known complete]
      rfl
  | _ =>
    rw [decodeValue, decodeFields]
    · constructor
      · intro done
        cases done
      · rintro ⟨_, _, _, _, same, _⟩
        cases same
    · intro _ same
      cases same

end XmlSettings.Schema
