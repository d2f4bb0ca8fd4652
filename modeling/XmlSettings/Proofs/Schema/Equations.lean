import XmlSettings.Proofs.Outcome
import XmlSettings.Schema.Decode

/-! # Equations of the decoder

What the decoder does with a raw value for each declared type.
-/

namespace XmlSettings.Schema

variable {classes : Classes} {className : Text} {field : Field} {path : Path} {settings : Settings}
  {raw : Value}

/-! ## Runs -/

namespace Run

variable {α β : Type} {run : Run α} {next : α → Run β}

theorem pure_bind (a : α) (next : α → Run β) : (pure a >>= next) = next a := rfl

theorem result_bind (run : Run α) (next : α → Run β) :
    (run >>= next).result = run.result.bind fun a => (next a).result := by
  obtain ⟨notes, result⟩ := run
  cases result <;> rfl

theorem result_bind_eq_ok {b : β} : (run >>= next).result = .ok b ↔
    ∃ a, run.result = .ok a ∧ (next a).result = .ok b := by
  rw [result_bind, bind_eq_ok]

theorem result_bind_eq_error {e : Failure} : (run >>= next).result = .error e ↔
    run.result = .error e ∨ ∃ a, run.result = .ok a ∧ (next a).result = .error e := by
  rw [result_bind]
  cases run.result <;> simp [Except.bind]

end Run

/-! ## Values -/

theorem decodeValue_scalar (type : Scalar) :
    decodeValue classes settings path raw (.scalar type) = decodeScalar settings path raw type := by
  rw [decodeValue]

theorem decodeValue_items {spelling : Spelling} {items : List Value} {item : Hint} :
    decodeValue classes settings path (.list items) (.list spelling item) =
      (decodeItems classes settings path 0 items item >>= fun items => pure (.list items)) := by
  rw [decodeValue]

/-- A value that is no list stands for a list of it. -/
theorem decodeValue_only {spelling : Spelling} {item : Hint} (single : ∀ items, raw ≠ .list items) :
    decodeValue classes settings path raw (.list spelling item) =
      (decodeValue classes settings (.index 0 :: path) raw item >>= fun only => pure (.list [only])) := by
  rw [decodeValue]
  exact single

theorem decodeValue_entries {spelling : Spelling} {entries : List (Text × Value)} {hint : Hint} :
    decodeValue classes settings path (.table entries) (.table spelling hint) =
      (decodeEntries classes settings path entries hint >>= fun entries => pure (.table entries)) := by
  rw [decodeValue]

theorem decodeValue_record {entries : List (Text × Value)} :
    decodeValue classes settings path (.table entries) (.record className) =
      (decodeKeys classes settings path className [] entries >>= fun values => do
        checkGiven path values ((fieldsOf classes className).map (·.2))
        construct classes className values) := by
  rw [decodeValue, decodeFields]

theorem decodeValue_record_of_ne (noTable : ∀ entries, raw ≠ .table entries) :
    decodeValue classes settings path raw (.record className) =
      Run.reject (.noTable path className raw.kindName) := by
  rw [decodeValue, decodeFields]
  · rfl
  · exact noTable

theorem decodeMember_cons {whole member : Hint} {errors : List DecodeError} {rest : List Hint} :
    decodeMember classes settings path raw whole errors (member :: rest) =
      if member.isNothing then decodeMember classes settings path raw whole errors rest
      else
        (decodeValue classes settings path raw member).orElseRejected fun e =>
          decodeMember classes settings path raw whole (e :: errors) rest := by
  rw [decodeMember]

theorem decodeKeys_nil {values : Entries Text Value} :
    decodeKeys classes settings path className values [] = pure values := by
  rw [decodeKeys]

theorem decodeKeys_cons {values : Entries Text Value} {key : Text} {rest : Entries Text Value}
    (known : (fieldsOf classes className).get? (normal key) = some field) :
    decodeKeys classes settings path className values ((key, raw) :: rest) =
      (decodeValue classes settings (.field field.name :: path) raw field.hint >>= fun value =>
        decodeKeys classes settings path className (values.put field.name value) rest) := by
  rw [decodeKeys, known]

/-- A key that names no field is refused, or noted and passed over. -/
theorem decodeKeys_unnamed {values : Entries Text Value} {key : Text} {rest : Entries Text Value}
    (unnamed : (fieldsOf classes className).get? (normal key) = none) :
    decodeKeys classes settings path className values ((key, raw) :: rest) =
      if settings.rejectUnused then Run.reject (.unusedKey path className key)
      else (Run.note ⟨key, className⟩ >>= fun _ =>
        decodeKeys classes settings path className values rest) := by
  rw [decodeKeys, unnamed]

/-! ## Fields that have to be given -/

theorem checkGiven_of_each {given : Entries Text Value} {declared : List Field}
    (each : ∀ field ∈ declared, field.isRequired = true → given.hasKey field.name = true) :
    checkGiven path given declared = pure ⟨⟩ := by
  induction declared with
  | nil => rfl
  | cons field rest ih =>
    obtain ⟨first, more⟩ := List.forall_mem_cons.1 each
    have passed : (field.isRequired && !given.hasKey field.name) = false := by
      cases required : field.isRequired with
      | false => rfl
      | true => simp [first required]
    rw [checkGiven, passed, ih more]
    rfl

end XmlSettings.Schema
