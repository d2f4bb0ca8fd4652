import Mathlib
import XmlSettings.Proofs.Schema.Keys
import XmlSettings.Schema.Target

/-! # Updating an instance

Decoding into an instance that is there already sets the fields that keys name, or changes nothing at
all: every value has been decoded before the first field is set (`updated_or_kept`).
-/

namespace XmlSettings

namespace Entries

variable {α : Type u} {entries additions : Entries Text α} {wanted : Text}

theorem get?_putAll_of_some {value : α} (written : get? additions.reverse wanted = some value) :
    get? (putAll entries additions) wanted = some value := by
  simp [get?_putAll, get?_append, written]

theorem get?_putAll_of_none (untouched : get? additions.reverse wanted = none) :
    get? (putAll entries additions) wanted = get? entries wanted := by
  simp [get?_putAll, get?_append, untouched]

end Entries

namespace Schema

variable {classes : Classes} {settings : Settings} {className : Text} {declared : List Field}
  {field : Field} {raw value : Value} {entries values before : List (Text × Value)}

/-- Whether the fields of each class have names of their own. -/
def Classes.HaveDistinctFields (classes : Classes) : Prop :=
  ∀ entry ∈ classes, (entry.2.map (·.name)).Nodup

theorem Classes.HaveDistinctFields.of_get? (own : classes.HaveDistinctFields)
    (known : classes.get? className = some declared) : (declared.map (·.name)).Nodup :=
  own _ (Entries.mem_of_get? known)

theorem decodeFields_eq_ok_iff {path : Path} :
    (decodeFields classes settings path className raw).result = .ok values ↔
      ∃ entries decoded, raw = .table entries ∧
        AreDecoded classes settings path className entries decoded ∧
        values = Entries.ofPairs decoded := by
  constructor
  · intro done
    cases raw with
    | table entries =>
      rw [decodeFields] at done
      obtain ⟨decoded, each, same⟩ := decodeKeys_eq_ok_iff.1 done
      exact ⟨entries, decoded, rfl, each, same⟩
    | _ =>
      rw [decodeFields] at done
      · cases done
      · intro _ same
        cases same
  · rintro ⟨entries, decoded, rfl, each, same⟩
    rw [decodeFields]
    exact decodeKeys_eq_ok_iff.2 ⟨decoded, each, same⟩

/-! ## Setting fields -/

namespace Update

theorem run_setFields (values : List (Text × Value)) (draft : Draft) :
    (setFields values).run.run draft =
      (.ok (), { draft with fields := Entries.putAll draft.fields values }) := by
  induction values generalizing draft with
  | nil => rfl
  | cons entry rest ih => exact ih { draft with fields := Entries.put entry.1 entry.2 draft.fields }

theorem run_decode_ok (done : (decodeFields classes settings [] className raw).result = .ok values)
    (draft : Draft) : ∃ notes, (decode classes settings className raw).run.run draft =
      (.ok (), ⟨Entries.putAll draft.fields values, notes⟩) := by
  refine ⟨draft.notes ++ (decodeFields classes settings [] className raw).notes, ?_⟩
  have moved : (decode classes settings className raw).run.run draft = (setFields values).run.run
      { draft with notes := draft.notes ++ (decodeFields classes settings [] className raw).notes } := by
    simp only [decode, ofRun, done]
    rfl
  rw [moved, run_setFields]

theorem run_decode_error {e : Failure}
    (failed : (decodeFields classes settings [] className raw).result = .error e) (draft : Draft) :
    ∃ notes, (decode classes settings className raw).run.run draft =
      (.error e, { draft with notes }) := by
  refine ⟨draft.notes ++ (decodeFields classes settings [] className raw).notes, ?_⟩
  simp only [decode, ofRun, failed]
  rfl

end Update

namespace Target

theorem decode_existing_ok (before : List (Text × Value))
    (done : (decodeFields classes settings [] className raw).result = .ok values) :
    ∃ notes, Target.decode classes settings (.existing (.record className before)) raw =
      ⟨⟨notes, .ok (.record className (Entries.putAll before values))⟩,
        .existing (.record className (Entries.putAll before values))⟩ := by
  obtain ⟨notes, run⟩ := Update.run_decode_ok done ⟨before, []⟩
  refine ⟨notes, ?_⟩
  simp only [Target.decode, run]
  rfl

theorem decode_existing_error (before : List (Text × Value)) {e : Failure}
    (failed : (decodeFields classes settings [] className raw).result = .error e) :
    ∃ notes, Target.decode classes settings (.existing (.record className before)) raw =
      ⟨⟨notes, .error e⟩, .existing (.record className before)⟩ := by
  obtain ⟨notes, run⟩ := Update.run_decode_error failed ⟨before, []⟩
  refine ⟨notes, ?_⟩
  simp only [Target.decode, run]
  rfl

theorem decode_existing_eq_ok_iff :
    (Target.decode classes settings (.existing (.record className before)) raw).run.result = .ok value ↔
      ∃ entries values, raw = .table entries ∧ AreDecoded classes settings [] className entries values ∧
        value = .record className (Entries.putAll before (Entries.ofPairs values)) := by
  constructor
  · intro done
    cases result : (decodeFields classes settings [] className raw).result with
    | error e =>
      obtain ⟨notes, failed⟩ := decode_existing_error before result
      simp [failed] at done
    | ok given =>
      obtain ⟨entries, values, rfl, decoded, rfl⟩ := decodeFields_eq_ok_iff.1 result
      obtain ⟨notes, again⟩ := decode_existing_ok before result
      rw [again] at done
      cases done
      exact ⟨entries, values, rfl, decoded, rfl⟩
  · rintro ⟨entries, values, rfl, decoded, rfl⟩
    obtain ⟨notes, done⟩ :=
      decode_existing_ok before (decodeFields_eq_ok_iff.2 ⟨entries, values, rfl, decoded, rfl⟩)
    rw [done]

theorem decode_existing_eq_error_iff {e : Failure} :
    (Target.decode classes settings (.existing (.record className before)) raw).run.result = .error e ↔
      (decodeFields classes settings [] className raw).result = .error e := by
  cases result : (decodeFields classes settings [] className raw).result with
  | error =>
    obtain ⟨notes, kept⟩ := decode_existing_error before result
    simp [kept]
  | ok =>
    obtain ⟨notes, done⟩ := decode_existing_ok before result
    simp [done]

theorem target_of_decoded (done :
    (Target.decode classes settings (.existing (.record className before)) raw).run.result = .ok value) :
    (Target.decode classes settings (.existing (.record className before)) raw).target =
      .existing value := by
  obtain ⟨entries, values, rfl, decoded, rfl⟩ := decode_existing_eq_ok_iff.1 done
  obtain ⟨notes, done⟩ :=
    decode_existing_ok before (decodeFields_eq_ok_iff.2 ⟨entries, values, rfl, decoded, rfl⟩)
  rw [done]

/-- An instance is left as it is where its new values cannot be decoded. -/
theorem target_of_failed {e : Failure} (failed :
    (Target.decode classes settings (.existing (.record className before)) raw).run.result = .error e) :
    (Target.decode classes settings (.existing (.record className before)) raw).target =
      .existing (.record className before) := by
  cases result : (decodeFields classes settings [] className raw).result with
  | error =>
    obtain ⟨notes, kept⟩ := decode_existing_error before result
    rw [kept]
  | ok =>
    obtain ⟨notes, done⟩ := decode_existing_ok before result
    simp [done] at failed

end Target

/-! ## All or nothing -/

/-- How the fields of an instance come from the keys of a table and the fields before. -/
structure IsUpdated (classes : Classes) (settings : Settings) (declared : List Field)
    (entries before after : Entries Text Value) : Prop where
  named : ∀ field ∈ declared, field.isSettable = true → ∀ raw, lastNamed field.name entries = some raw →
    ∃ value, (decodeValue classes settings [.field field.name] raw field.hint).result = .ok value ∧
      after.get? field.name = some value
  kept : ∀ field ∈ declared, field.isSettable = false ∨ lastNamed field.name entries = none →
    after.get? field.name = before.get? field.name
  others : ∀ name ∉ declared.map (·.name), after.get? name = before.get? name
  order : (∀ field ∈ declared, field.isSettable = true → field.name ∈ before.keys) →
    after.keys = before.keys

theorem exists_settable (known : classes.get? className = some declared) {path : Path}
    (decoded : AreDecoded classes settings path className entries values) {name : Text}
    (member : name ∈ Entries.keys values) :
    ∃ field ∈ declared, field.isSettable = true ∧ field.name = name := by
  obtain ⟨key, _, field, named, same⟩ := decoded.exists_key member
  obtain ⟨_, settable, others, again, inside⟩ := of_get?_settable named
  cases known.symm.trans again
  exact ⟨field, inside, settable, same⟩

theorem isUpdated_of_areDecoded (distinct : HaveDistinctNames declared)
    (own : (declared.map (·.name)).Nodup) (known : classes.get? className = some declared)
    (decoded : AreDecoded classes settings [] className entries values) :
    IsUpdated classes settings declared entries before
      (Entries.putAll before (Entries.ofPairs values)) := by
  have untouched {name : Text}
      (noField : ∀ field ∈ declared, field.isSettable = true → field.name ≠ name) :
      Entries.get? (Entries.putAll before (Entries.ofPairs values)) name = Entries.get? before name := by
    apply Entries.get?_putAll_of_none
    rw [Entries.get?_reverse_ofPairs, Entries.get?_reverse_eq_none_iff]
    intro member
    obtain ⟨field, inside, settable, same⟩ := exists_settable known decoded member
    exact noField field inside settable same
  refine ⟨fun field inside settable raw last => ?_, fun field inside unnamed => ?_,
    fun name unknown => ?_, fun complete => ?_⟩
  · have found := get?_fieldsOf_of_distinct known distinct inside settable
    rcases decoded.get?_reverse found with ⟨none, _⟩ | ⟨again, value, same, done, value?⟩
    · simp [last] at none
    · cases last.symm.trans same
      exact ⟨value, done, Entries.get?_putAll_of_some ((Entries.get?_reverse_ofPairs _ _).trans value?)⟩
  -- A field that keys cannot set has the name of no other field, so it is not set through one either.
  · by_cases settable : field.isSettable = true
    · have last := unnamed.resolve_left (by simp [settable])
      have found := get?_fieldsOf_of_distinct known distinct inside settable
      rcases decoded.get?_reverse found with ⟨_, none⟩ | ⟨raw, _, some, _⟩
      · exact Entries.get?_putAll_of_none ((Entries.get?_reverse_ofPairs _ _).trans none)
      · simp [last] at some
    · apply untouched
      intro other member otherSettable same
      exact settable (List.inj_on_of_nodup_map own member inside same ▸ otherSettable)
  · apply untouched
    intro field inside _ same
    exact unknown (List.mem_map.2 ⟨field, inside, same⟩)
  · apply Entries.keys_putAll_of_known
    intro name member
    obtain ⟨field, inside, settable, same⟩ :=
      exists_settable known decoded (Entries.mem_keys_ofPairs.1 member)
    exact same ▸ complete field inside settable

/-- An instance is as before if anything in a table cannot be decoded.  Otherwise the fields that keys
    name hold what is decoded under the last key that names them, and no other field changes. -/
theorem updated_or_kept (distinct : classes.HaveDistinctNames) (own : classes.HaveDistinctFields)
    (known : classes.get? className = some declared) (settings : Settings) (before : Entries Text Value)
    (raw : Value) :
    let decoding := Target.decode classes settings (.existing (.record className before)) raw
    (∀ e, decoding.run.result = .error e → decoding.target = .existing (.record className before)) ∧
      (∀ value, decoding.run.result = .ok value → ∃ entries after, raw = .table entries ∧
        value = .record className after ∧ decoding.target = .existing value ∧
        IsUpdated classes settings declared entries before after) ∧
      ((∃ value, decoding.run.result = .ok value) ↔ ∃ entries, raw = .table entries ∧
        ∀ key inner, (key, inner) ∈ entries → IsAccepted classes settings [] className key inner) := by
  intro decoding
  refine ⟨fun _ => Target.target_of_failed, fun value done => ?_, ?_⟩
  · obtain ⟨entries, values, rfl, decoded, rfl⟩ := Target.decode_existing_eq_ok_iff.1 done
    exact ⟨entries, _, rfl, rfl, Target.target_of_decoded done,
      isUpdated_of_areDecoded (distinct.of_get? known) (own.of_get? known) known decoded⟩
  · simp only [decoding, Target.decode_existing_eq_ok_iff]
    constructor
    · rintro ⟨_, entries, values, rfl, decoded, _⟩
      exact ⟨entries, rfl, exists_areDecoded_iff.1 ⟨values, decoded⟩⟩
    · rintro ⟨entries, rfl, each⟩
      obtain ⟨values, decoded⟩ := exists_areDecoded_iff.2 each
      exact ⟨_, entries, values, rfl, decoded, rfl⟩

/-- The number of a port is not set where a later key does not fit. -/
theorem updated_or_kept_server :
    let classes : Classes := [("Server", [⟨"host", .scalar .text, .required, true⟩,
      ⟨"port", .scalar .integer, .value (.integer 80), true⟩,
      ⟨"is_open", .scalar .flag, .value (.flag true), false⟩])]
    let fields (port : Int) : Entries Text Value :=
      [("host", .text "a"), ("port", .integer port), ("is_open", .flag false)]
    let server (port : Int) := Target.existing (.record "Server" (fields port))
    let decoding (raw : Entries Text Value) := Target.decode classes .standard (server 80) (.table raw)
    (decoding [("PORT", .text "81"), ("host", .list [])]).target = server 80 ∧
      (decoding [("Port", .text "81"), ("port", .text "82")]).target = server 82 := by
  intro classes fields server decoding
  have distinct : classes.HaveDistinctNames := by
    unfold Classes.HaveDistinctNames
    decide +kernel
  have own : classes.HaveDistinctFields := by
    unfold Classes.HaveDistinctFields
    decide
  have known : classes.get? "Server" = some _ := rfl
  constructor
  · exact (updated_or_kept distinct own known .standard (fields 80) _).1 _ (by cbv)
  · have settled := updated_or_kept distinct own known .standard (fields 80)
      (.table [("Port", .text "81"), ("port", .text "82")])
    obtain ⟨_, _, _, _, updated, _⟩ := settled.2.1 (.record "Server" (fields 82)) (by cbv)
    exact updated

end Schema

end XmlSettings
